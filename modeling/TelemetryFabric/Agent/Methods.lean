import TelemetryFabric.Agent.Runtime
import TelemetryFabric.Buffer.Batch
import TelemetryFabric.Library.Ensures

/-!
What the methods of the runtime do, one lemma for each. The first part holds under every
plan of file-system failures and is about the fields the flush and reload methods steer by;
the second part is about methods during which every file-system call succeeds.
-/

namespace TelemetryFabric.Agent
open Library TelemetryFabric.Core Buffer Processors

variable {E : Type}

/-! ### Sequencing -/

@[simp] theorem bind_session {α β : Type} (first : AgentM E α) (next : α → AgentM E β)
    (session : AgentSession E) :
    (first >>= next) session = match first session with
      | .ok value later => next value later
      | .error halt later => .error halt later := by
  change EStateM.bind first next session = _
  unfold EStateM.bind
  cases first session <;> rfl

@[simp] theorem pure_session {α : Type} (value : α) (session : AgentSession E) :
    (pure value : AgentM E α) session = .ok value session := rfl

@[simp] theorem fail_session {α : Type} (error : AgentError) (session : AgentSession E) :
    (fail error : AgentM E α) session = .error (.raised error) session := rfl

@[simp] theorem throw_session {α : Type} (halt : AgentHalt) (session : AgentSession E) :
    (throw halt : AgentM E α) session = .error halt session := rfl

@[simp] theorem getRuntime_session (session : AgentSession E) :
    getRuntime session = .ok session.runtime session := rfl

@[simp] theorem modifyRuntime_session (change : AgentRuntime E → AgentRuntime E)
    (session : AgentSession E) :
    modifyRuntime change session = .ok () { session with runtime := change session.runtime } := rfl

@[simp] theorem ofExcept_ok {ε α : Type} (toError : ε → AgentError) (value : α) :
    (ofExcept toError (.ok value) : AgentM E α) = pure value := rfl

@[simp] theorem ofExcept_error {ε α : Type} (toError : ε → AgentError) (error : ε) :
    (ofExcept toError (.error error) : AgentM E α) = fail (toError error) := rfl

/-! ### Properties of the runtime that methods keep -/

/-- A method that keeps a property of the runtime, however it ends. -/
def Preserves {α : Type} (property : AgentRuntime E → Prop) (program : AgentM E α) : Prop :=
  Ensures (fun session => property session.runtime) program (fun _ session => property session.runtime)
    (fun session => property session.runtime)

namespace Preserves

variable {α β : Type} {property : AgentRuntime E → Prop}

theorem pure (value : α) : Preserves property (Pure.pure value : AgentM E α) := fun _ holds => holds

theorem fail (error : AgentError) : Preserves property (Agent.fail error : AgentM E α) := fun _ holds => holds

theorem bind {program : AgentM E α} {next : α → AgentM E β} (first : Preserves property program)
    (rest : ∀ value, Preserves property (next value)) : Preserves property (program >>= next) :=
  Ensures.bind first rest

/-- What is read of the runtime has the property, too. -/
theorem getRuntime {next : AgentRuntime E → AgentM E β}
    (rest : ∀ runtime, property runtime → Preserves property (next runtime)) :
    Preserves property (Agent.getRuntime >>= next) := by
  intro session holds
  rw [bind_session]
  exact rest session.runtime holds session holds

theorem modifyRuntime {change : AgentRuntime E → AgentRuntime E}
    (keeps : ∀ runtime, property runtime → property (change runtime)) :
    Preserves property (Agent.modifyRuntime change) :=
  fun session holds => keeps session.runtime holds

theorem onQueue {action : QueueM α}
    (keeps : ∀ runtime : AgentRuntime E,
      Ensures (fun session => property { runtime with queue := session.queue }) action
      (fun _ session => property { runtime with queue := session.queue })
      (fun session => property { runtime with queue := session.queue })) :
    Preserves property (Agent.onQueue action : AgentM E α) := by
  intro session holds
  have result := keeps session.runtime ⟨session.runtime.queue, session.plan⟩ holds
  unfold Agent.onQueue
  cases ran : action ⟨session.runtime.queue, session.plan⟩ with
  | ok value later =>
    rw [ran] at result
    exact result
  | error halt later =>
    rw [ran] at result
    exact result

/-- A property of everything but the queue. -/
theorem onQueue_of_unaffected (action : QueueM α)
    (unaffected : ∀ runtime queue, property runtime → property { runtime with queue := queue }) :
    Preserves property (Agent.onQueue action : AgentM E α) := by
  intro session holds
  unfold Agent.onQueue
  cases action ⟨session.runtime.queue, session.plan⟩ <;> exact unaffected _ _ holds

theorem ofExcept {ε : Type} (toError : ε → AgentError) (outcome : Except ε α) :
    Preserves property (Agent.ofExcept toError outcome : AgentM E α) := by
  cases outcome with
  | ok value => exact pure value
  | error error => exact fail (toError error)

theorem counting {program : AgentM E α} {success : α → AgentRuntime E → AgentRuntime E}
    {failure : AgentRuntime E → AgentRuntime E} (keeps : Preserves property program)
    (succeeded : ∀ value runtime, property runtime → property (success value runtime))
    (failed : ∀ runtime, property runtime → property (failure runtime)) :
    Preserves property (Agent.counting program success failure) := by
  intro session holds
  have result := keeps session holds
  unfold Agent.counting
  cases ran : program session with
  | ok value later =>
    rw [ran] at result
    exact succeeded value later.runtime result
  | error halt later =>
    rw [ran] at result
    cases halt with
    | raised error => exact failed later.runtime result
    | panicked => exact result
    | crashed => exact result
    | unfinished => exact result

theorem of_ok {program : AgentM E α} (keeps : Preserves property program) {session later : AgentSession E}
    {value : α} (holds : property session.runtime) (ran : program session = .ok value later) :
    property later.runtime := by
  have result := keeps session holds
  rwa [ran] at result

theorem of_error {program : AgentM E α} (keeps : Preserves property program) {session later : AgentSession E}
    {halt : AgentHalt} (holds : property session.runtime) (ran : program session = .error halt later) :
    property later.runtime := by
  have result := keeps session holds
  rwa [ran] at result

end Preserves

/-! ### Control -/

/-- The fields that steer flushes and reloads. -/
structure Control (E : Type) where
  config : PipelineConfig
  exporters : ExporterMap E
  configGeneration : UInt64
  flushInProgress : Bool
  attempts : Nat
  successes : Nat
  failures : Nat

def AgentRuntime.control (runtime : AgentRuntime E) : Control E where
  config := runtime.config
  exporters := runtime.exporters
  configGeneration := runtime.configGeneration
  flushInProgress := runtime.flushInProgress
  attempts := runtime.metrics.flushAttemptsTotal
  successes := runtime.metrics.flushSuccessesTotal
  failures := runtime.metrics.flushFailuresTotal

/-- A method that leaves the steering fields as they are, however it ends. -/
def Unsteered {α : Type} (program : AgentM E α) : Prop :=
  ∀ control : Control E, Preserves (fun runtime => runtime.control = control) program

namespace Unsteered

variable {α β : Type}

theorem pure (value : α) : Unsteered (Pure.pure value : AgentM E α) := fun _ => .pure value

theorem fail (error : AgentError) : Unsteered (Agent.fail error : AgentM E α) := fun _ => .fail error

theorem bind {program : AgentM E α} {next : α → AgentM E β} (first : Unsteered program)
    (rest : ∀ value, Unsteered (next value)) : Unsteered (program >>= next) :=
  fun control => Preserves.bind (first control) fun value => rest value control

theorem getRuntime : Unsteered (Agent.getRuntime : AgentM E (AgentRuntime E)) := fun _ _ same => same

theorem modifyRuntime {change : AgentRuntime E → AgentRuntime E}
    (steady : ∀ runtime, (change runtime).control = runtime.control) :
    Unsteered (Agent.modifyRuntime change) :=
  fun _ => .modifyRuntime fun runtime same => (steady runtime).trans same

theorem onQueue (action : QueueM α) : Unsteered (Agent.onQueue action : AgentM E α) :=
  fun _ => .onQueue_of_unaffected action fun _ _ same => same

theorem ofExcept {ε : Type} (toError : ε → AgentError) (outcome : Except ε α) :
    Unsteered (Agent.ofExcept toError outcome : AgentM E α) :=
  fun _ => .ofExcept toError outcome

theorem counting {program : AgentM E α} {success : α → AgentRuntime E → AgentRuntime E}
    {failure : AgentRuntime E → AgentRuntime E} (steady : Unsteered program)
    (success_steady : ∀ value runtime, (success value runtime).control = runtime.control)
    (failure_steady : ∀ runtime, (failure runtime).control = runtime.control) :
    Unsteered (Agent.counting program success failure) :=
  fun control => Preserves.counting (steady control)
    (fun value runtime same => (success_steady value runtime).trans same)
    (fun runtime same => (failure_steady runtime).trans same)

/-- A steady method that returns does so with the steering fields it was called with. -/
theorem of_ok {program : AgentM E α} (steady : Unsteered program) {session later : AgentSession E}
    {value : α} (ran : program session = .ok value later) :
    later.runtime.control = session.runtime.control :=
  Preserves.of_ok (steady session.runtime.control) rfl ran

theorem of_error {program : AgentM E α} (steady : Unsteered program) {session later : AgentSession E}
    {halt : AgentHalt} (ran : program session = .error halt later) :
    later.runtime.control = session.runtime.control :=
  Preserves.of_error (steady session.runtime.control) rfl ran

end Unsteered

theorem ingest_unsteered (record : TelemetryRecord) : Unsteered (ingest record : AgentM E Unit) := by
  have inner : Unsteered (ingestInner record : AgentM E Unit) := by
    refine .bind .getRuntime fun runtime => .bind (.ofExcept _ _) fun _ => .bind (.ofExcept _ _)
      fun encoded => .bind (.ofExcept _ _) fun recordBytes => ?_
    simp only
    split_ifs
    · exact .bind (.fail _) fun _ => .onQueue _
    · exact .onQueue _
  exact .counting inner (fun _ _ => rfl) (fun _ => rfl)

theorem takeBatch_unsteered (maxItems : Nat) (clock : Nat → Nat → Nat) :
    Unsteered (takeBatch maxItems clock :
      AgentM E (Option (PendingBatch × List TelemetryRecord) × FlushReport)) := by
  refine .bind (.onQueue _) fun batch => ?_
  simp only
  split_ifs
  · exact .bind (.onQueue _) fun _ => .pure _
  · exact .bind .getRuntime fun runtime => .bind (.modifyRuntime fun _ => rfl) fun _ =>
      .bind (.ofExcept _ _) fun _ => .pure _

/-- A reload takes effect as a whole, or only counts its failure. -/
theorem reloadConfig_cases (config : PipelineConfig) (build : ExporterConfig → Except ExporterError E)
    (session : AgentSession E) :
    (∃ exporters, config.validate = .ok () ∧ buildExporters build config.exporters .empty = .ok exporters ∧
      reloadConfig config build session = .ok () { session with
        runtime := AgentRuntime.countReload true { session.runtime with
          config := config
          processors := .fromConfig config
          exporters := exporters
          configGeneration := session.runtime.configGeneration + 1 } }) ∨
    (∃ error, reloadConfig config build session =
      .error (.raised error) { session with runtime := session.runtime.countReload false }) := by
  cases checked : config.validate with
  | error error => exact Or.inr ⟨.config error, by simp [reloadConfig, counting, reloadConfigInner, checked]⟩
  | ok done =>
    cases built : buildExporters build config.exporters .empty with
    | error error =>
      exact Or.inr ⟨.exporter error, by simp [reloadConfig, counting, reloadConfigInner, checked, built]⟩
    | ok exporters =>
      exact Or.inl ⟨exporters, rfl, rfl, by simp [reloadConfig, counting, reloadConfigInner, checked, built]⟩

/-- The exporters leave the runtime exactly when there is something to export. -/
theorem prepareFlushWork_steers (maxItems : Nat) (clock : Nat → Nat → Nat) (session : AgentSession E) :
    match prepareFlushWork maxItems clock session with
    | .ok (.empty _) later => later.runtime.control = session.runtime.control
    | .ok (.ready prepared) later =>
        later.runtime.control = { session.runtime.control with exporters := .empty } ∧
          prepared.config = session.runtime.config ∧ prepared.exporters = session.runtime.exporters ∧
          prepared.configGeneration = session.runtime.configGeneration
    | .error _ later => later.runtime.control = session.runtime.control := by
  rw [prepareFlushWork, bind_session]
  cases taken : takeBatch maxItems clock session with
  | error halt later => exact (takeBatch_unsteered maxItems clock).of_error taken
  | ok value later =>
    have kept := (takeBatch_unsteered maxItems clock).of_ok taken
    obtain ⟨found, report⟩ := value
    cases found with
    | none => exact kept
    | some work =>
      have config := congrArg Control.config kept
      have exporters := congrArg Control.exporters kept
      have generation := congrArg Control.configGeneration kept
      refine ⟨?_, config, exporters, generation⟩
      rw [← kept]
      rfl

theorem prepareSharedFlush_steers (maxItems : Nat) (force : Bool) (clock : Nat → Nat → Nat)
    (session : AgentSession E) :
    match prepareSharedFlush maxItems force clock session with
    | .ok .waiting later => later = session
    | .ok .nothing later => later = session ∨
        later.runtime.control = { session.runtime.control with
          attempts := session.runtime.control.attempts + 1
          successes := session.runtime.control.successes + 1 }
    | .ok (.prepared flush) later => session.runtime.flushInProgress = false ∧
        later.runtime.control = { session.runtime.control with
          exporters := .empty
          flushInProgress := true
          attempts := session.runtime.control.attempts + 1 } ∧
        flush.config = session.runtime.config ∧ flush.exporters = session.runtime.exporters ∧
        flush.configGeneration = session.runtime.configGeneration
    | .error (.raised _) later =>
        later.runtime.control = { session.runtime.control with
          attempts := session.runtime.control.attempts + 1
          failures := session.runtime.control.failures + 1 }
    | .error _ _ => True := by
  simp only [prepareSharedFlush, bind_session, getRuntime_session]
  split_ifs with paused busy
  · exact Or.inl rfl
  · rfl
  · have work := prepareFlushWork_steers maxItems clock
      { session with runtime := session.runtime.recordFlushAttempt }
    simp only [bind_session, modifyRuntime_session, counting]
    cases prepared : prepareFlushWork maxItems clock
        { session with runtime := session.runtime.recordFlushAttempt } with
    | error halt later =>
      rw [prepared] at work
      cases halt with
      | raised error =>
        change later.runtime.recordFlushFailure.control = _
        have failures := congrArg (fun control => { control with failures := control.failures + 1 }) work
        exact failures
      | panicked => trivial
      | crashed => trivial
      | unfinished => trivial
    | ok state later =>
      rw [prepared] at work
      cases state with
      | empty report =>
        refine Or.inr ?_
        have successes := congrArg (fun control => { control with successes := control.successes + 1 }) work
        exact successes
      | ready flush =>
        obtain ⟨kept, config, exporters, generation⟩ := work
        refine ⟨by simpa using busy, ?_, config, exporters, generation⟩
        have flagged := congrArg (fun control => { control with flushInProgress := true }) kept
        exact flagged

/-- The control fields once a flush has given its exporters back. -/
def Control.restored (control : Control E) (flush : PreparedFlush E) : Control E :=
  { control with
    exporters := if control.configGeneration = flush.configGeneration then flush.exporters
      else control.exporters
    flushInProgress := false }

/-- The runtime `completeFlush` goes on with: the exporters are back, unless a reload has
installed others, and the flag is down. -/
def AgentRuntime.released (runtime : AgentRuntime E) (flush : PreparedFlush E) : AgentRuntime E :=
  { runtime with
    exporters := if runtime.configGeneration = flush.configGeneration then flush.exporters
      else runtime.exporters
    flushInProgress := false }

/-- The commit of a flush whose export has returned. -/
def commitFlush (flush : PreparedFlush E) : Except DiskQueueError FlushReport → AgentM E FlushReport
  | .ok exported => do
      let _ ← onQueue (commitBatch flush.batch)
      return flush.report.withExport exported
  | .error error => fail (.queue error)

theorem completeFlush_eq (flush : PreparedFlush E) (result : Except DiskQueueError FlushReport)
    (session : AgentSession E) :
    completeFlush flush result session =
      counting (commitFlush flush result) AgentRuntime.recordFlushSuccess .recordFlushFailure
        { session with runtime := session.runtime.released flush } := by
  have restored : ({ (if session.runtime.configGeneration = flush.configGeneration then
      { session.runtime with exporters := flush.exporters } else session.runtime) with
        flushInProgress := false } : AgentRuntime E) = session.runtime.released flush := by
    unfold AgentRuntime.released
    split_ifs <;> rfl
  simp only [completeFlush, bind_session, modifyRuntime_session, restored]
  cases result <;> rfl

theorem completeFlush_preserves {property : AgentRuntime E → Prop} {flush : PreparedFlush E}
    {result : Except DiskQueueError FlushReport} (finish : Preserves property (commitFlush flush result))
    (released : ∀ runtime, property runtime → property (runtime.released flush))
    (succeeded : ∀ report runtime, property runtime → property (AgentRuntime.recordFlushSuccess report runtime))
    (failed : ∀ runtime, property runtime → property runtime.recordFlushFailure) :
    Preserves property (completeFlush flush result) := by
  have counted : Preserves property (counting (commitFlush flush result) AgentRuntime.recordFlushSuccess
      AgentRuntime.recordFlushFailure) := .counting finish succeeded failed
  intro session holds
  rw [completeFlush_eq]
  exact counted { session with runtime := session.runtime.released flush } (released _ holds)

/-- What a shared flush does under its first lock keeps what `takeBatch` and the flags keep. -/
theorem prepareSharedFlush_preserves {property : AgentRuntime E → Prop} {maxItems : Nat}
    {clock : Nat → Nat → Nat}
    (taken : Preserves property (takeBatch maxItems clock :
      AgentM E (Option (PendingBatch × List TelemetryRecord) × FlushReport))) (force : Bool)
    (attempted : ∀ runtime, property runtime → property runtime.recordFlushAttempt)
    (failed : ∀ runtime, property runtime → property runtime.recordFlushFailure)
    (succeeded : ∀ report runtime, property runtime → property (AgentRuntime.recordFlushSuccess report runtime))
    (lent : ∀ runtime : AgentRuntime E, property runtime → property { runtime with exporters := .empty } ∧
      property { runtime with flushInProgress := true }) :
    Preserves property (prepareSharedFlush maxItems force clock : AgentM E (Turn E)) := by
  have work : Preserves property (prepareFlushWork maxItems clock : AgentM E (PreparedFlushState E)) := by
    refine .bind taken fun ⟨found, report⟩ => ?_
    cases found with
    | none => exact .pure _
    | some work =>
      exact .getRuntime fun _ _ => .bind (.modifyRuntime fun runtime holds => (lent runtime holds).1) fun _ =>
        .pure _
  refine .getRuntime fun runtime _ => ?_
  split_ifs
  · exact .pure _
  · exact .pure _
  · refine .bind (.modifyRuntime attempted) fun _ => .bind (.counting work ?_ failed) fun state => ?_
    · rintro (report | prepared) runtime holds
      · exact succeeded report runtime holds
      · exact (lent runtime holds).2
    · cases state <;> exact .pure _

theorem completeFlush_steers (flush : PreparedFlush E) (result : Except DiskQueueError FlushReport)
    (session : AgentSession E) :
    match completeFlush flush result session with
    | .ok _ later =>
        later.runtime.control = { session.runtime.control.restored flush with
          successes := session.runtime.control.successes + 1 }
    | .error (.raised _) later =>
        later.runtime.control = { session.runtime.control.restored flush with
          failures := session.runtime.control.failures + 1 }
    | .error _ _ => True := by
  have steady : Unsteered (commitFlush flush result) := by
    cases result with
    | ok exported => exact .bind (.onQueue _) fun _ => .pure _
    | error error => exact .fail _
  rw [completeFlush_eq]
  unfold counting
  cases committed : commitFlush flush result
      { session with runtime := session.runtime.released flush } with
  | ok report later =>
    have successes := congrArg (fun control => { control with successes := control.successes + 1 })
      (steady.of_ok committed)
    exact successes
  | error halt later =>
    have failures := congrArg (fun control => { control with failures := control.failures + 1 })
      (steady.of_error committed)
    cases halt with
    | raised error => exact failures
    | panicked => trivial
    | crashed => trivial
    | unfinished => trivial

/-! ### Ingest -/

/-- The record is small enough for the configuration, for its own format and for a queue
record, and the queue is not full. -/
structure Admissible (runtime : AgentRuntime E) (record : TelemetryRecord) (payload : Bytes) : Prop where
  valid : record.validate runtime.config.limits.maxRecordBytes.toNat = .ok ()
  encoded : record.encode = .ok payload
  small : payload.length ≤ u32Max
  quota : saturatingAdd runtime.queue.queuedBytes (recordHeaderLen + payload.length) ≤
    runtime.config.limits.maxQueueBytes.toNat

theorem storageBytes_of_small {size : Nat} (small : size ≤ u32Max) :
    storageBytesForPayload size = .ok (recordHeaderLen + size) := by
  unfold storageBytesForPayload
  rw [if_neg (not_lt.mpr small)]

/-- An admissible record goes to the queue. -/
theorem ingest_admissible {runtime : AgentRuntime E} {record : TelemetryRecord} {payload : Bytes}
    (admissible : Admissible runtime record payload) (plan : List (Option Fault)) :
    ingest record ⟨runtime, plan⟩ =
      counting (onQueue (enqueue payload)) (fun _ => AgentRuntime.countIngest true)
        (.countIngest false) ⟨runtime, plan⟩ := by
  have room := admissible.quota
  simp only [ingest, counting, ingestInner, bind_session, getRuntime_session, admissible.valid,
    admissible.encoded, storageBytes_of_small admissible.small, ofExcept_ok, pure_session,
    if_neg (not_lt.mpr room)]

/-- A full queue refuses the record and changes nothing but the counter of refusals. -/
theorem ingest_full {runtime : AgentRuntime E} {record : TelemetryRecord} {payload : Bytes}
    (valid : record.validate runtime.config.limits.maxRecordBytes.toNat = .ok ())
    (encoded : record.encode = .ok payload) (small : payload.length ≤ u32Max)
    (full : runtime.config.limits.maxQueueBytes.toNat <
      saturatingAdd runtime.queue.queuedBytes (recordHeaderLen + payload.length))
    (plan : List (Option Fault)) :
    ingest record ⟨runtime, plan⟩ =
      .error (.raised (.runtime (.queueFull runtime.queue.queuedBytes (recordHeaderLen + payload.length)
        runtime.config.limits.maxQueueBytes.toNat))) ⟨runtime.countIngest false, plan⟩ := by
  simp only [ingest, counting, ingestInner, bind_session, getRuntime_session, valid, encoded,
    storageBytes_of_small small, ofExcept_ok, pure_session, if_pos full, fail_session]

/-- Everything `ingest` can do before it reaches the queue. -/
theorem ingest_cases (runtime : AgentRuntime E) (record : TelemetryRecord) (plan : List (Option Fault)) :
    (∃ payload, Admissible runtime record payload) ∨
    (∃ error, error ≠ .queue .io ∧
      ingest record ⟨runtime, plan⟩ = .error (.raised error) ⟨runtime.countIngest false, plan⟩) := by
  cases valid : record.validate runtime.config.limits.maxRecordBytes.toNat with
  | error error =>
    exact Or.inr ⟨.telemetry error, by simp, by simp [ingest, counting, ingestInner, valid]⟩
  | ok done =>
    cases encoded : record.encode with
    | error error =>
      exact Or.inr ⟨.telemetry error, by simp, by simp [ingest, counting, ingestInner, valid, encoded]⟩
    | ok payload =>
      by_cases small : payload.length ≤ u32Max
      · by_cases room : saturatingAdd runtime.queue.queuedBytes (recordHeaderLen + payload.length) ≤
            runtime.config.limits.maxQueueBytes.toNat
        · exact Or.inl ⟨payload, valid, encoded, small, room⟩
        · exact Or.inr ⟨_, by simp, ingest_full valid encoded small (not_le.mp room) plan⟩
      · have storage : storageBytesForPayload payload.length = .error (.payloadTooLarge payload.length) := by
          unfold storageBytesForPayload
          rw [if_pos (not_le.mp small)]
        exact Or.inr ⟨.queue (.payloadTooLarge payload.length), by simp,
          by simp [ingest, counting, ingestInner, valid, encoded, storage]⟩

/-- With every file-system call succeeding: the record is appended, refused, or the active
file is full. -/
theorem ingest_calm (runtime : AgentRuntime E) (record : TelemetryRecord) :
    (∃ payload, ∃ full : SegmentFile, Admissible runtime record payload ∧
      (runtime.queue.rotates payload → runtime.queue.activeSegmentId < u64Max) ∧
      full.bytes = (runtime.queue.rotated payload).activeFile.bytes ++ frame payload ∧
      ingest record ⟨runtime, []⟩ = .ok () ⟨AgentRuntime.countIngest true { runtime with
        queue := (runtime.queue.rotated payload).appended payload full }, []⟩) ∨
    (∃ error, error ≠ .queue .io ∧
      ingest record ⟨runtime, []⟩ = .error (.raised error) ⟨runtime.countIngest false, []⟩) ∨
    (∃ later, ingest record ⟨runtime, []⟩ = .error (.raised (.queue .io)) later) := by
  rcases ingest_cases runtime record [] with ⟨payload, admissible⟩ | refused
  · rw [ingest_admissible admissible]
    rcases enqueue_cases runtime.queue payload with
      ⟨full, small, room, bytes, done⟩ | ⟨error, other, refused⟩ | ⟨later, failed⟩
    · exact Or.inl ⟨payload, full, admissible, room, bytes, by simp [counting, onQueue, done]⟩
    · exact Or.inr (Or.inl ⟨.queue error, by simpa using other, by simp [counting, onQueue, refused]⟩)
    · exact Or.inr (Or.inr ⟨_, by simp only [counting, onQueue, failed]; rfl⟩)
  · exact Or.inr (Or.inl refused)

/-! ### Flush -/

/-- The payloads of a batch as the loop over it sees them. -/
def Holds (payloads : List Bytes) (records : List TelemetryRecord) : Prop :=
  List.Forall₂ (fun payload record => TelemetryRecord.decode payload = .ok record) payloads records

theorem processPayloads_eq {clock : Nat → Nat → Nat} {payloads : List Bytes} {records : List TelemetryRecord}
    (holds : Holds payloads records) (before : List TelemetryRecord) (dropped : Nat) (chain : ProcessorChain) :
    processPayloads clock payloads before dropped chain =
      (.ok (before ++ (chain.pass clock records).1.filterMap id,
        dropped + (chain.pass clock records).1.countP Option.isNone), (chain.pass clock records).2) := by
  induction holds generalizing clock before dropped chain with
  | nil => simp [processPayloads, ProcessorChain.pass]
  | cons decoded rest ih =>
    rename_i payload record payloads records
    obtain ⟨decision, next, done⟩ := chain.process_ok (clock 0) record
    rw [processPayloads, decoded]
    simp only [done, ProcessorChain.pass]
    cases decision with
    | none =>
      refine (ih before (dropped + 1) next).trans ?_
      simp [Except.toOption]
      omega
    | some processed =>
      refine (ih (before ++ [processed]) dropped next).trans ?_
      simp [Except.toOption]

theorem decodeAll_eq {payloads : List Bytes} {records : List TelemetryRecord} (holds : Holds payloads records) :
    payloads.filterMap (fun payload => (TelemetryRecord.decode payload).toOption) = records := by
  induction holds with
  | nil => rfl
  | cons decoded rest ih => rw [List.filterMap_cons, decoded, ih]; rfl

/-- A batch has been read: it is committed at once if it is empty and processed otherwise. -/
theorem takeBatch_calm {runtime : AgentRuntime E} {maxItems : Nat} {batch : PendingBatch} {queue : DiskQueue}
    (clock : Nat → Nat → Nat) (read : readBatch maxItems ⟨runtime.queue, []⟩ = .ok batch ⟨queue, []⟩) :
    takeBatch maxItems clock ⟨runtime, []⟩ =
      if batch.payloads.isEmpty then
        .ok (none, { FlushReport.default with drainedRecords := batch.payloads.length })
          ⟨{ runtime with queue := queue.afterCommit batch }, []⟩
      else match processPayloads clock batch.payloads [] 0 runtime.processors with
        | (.ok (records, dropped), processors) =>
            .ok (some (batch, records), { FlushReport.default with
              drainedRecords := batch.payloads.length
              droppedRecords := dropped }) ⟨{ runtime with queue := queue, processors := processors }, []⟩
        | (.error error, processors) =>
            .error (.raised (.queue error)) ⟨{ runtime with queue := queue, processors := processors }, []⟩ := by
  simp only [takeBatch, bind_session, onQueue, read]
  split_ifs with none
  · simp [onQueue, commitBatch_eq]
  · simp only [bind_session, getRuntime_session, modifyRuntime_session]
    cases processPayloads clock batch.payloads [] 0 runtime.processors with
    | mk outcome processors => cases outcome <;> rfl

/-- No vector can hold the batch. -/
theorem takeBatch_panics {maxItems : Nat} (large : maxBatchItems < maxItems) (clock : Nat → Nat → Nat)
    (session : AgentSession E) : takeBatch maxItems clock session = .error .panicked session := by
  simp only [takeBatch, bind_session, onQueue, readBatch_panics large]

/-- What a flush hands to its export: the records the chain emits, with the rest counted. -/
def AgentRuntime.work (runtime : AgentRuntime E) (clock : Nat → Nat → Nat) (batch : PendingBatch)
    (records : List TelemetryRecord) : PreparedFlush E where
  batch := batch
  report := { FlushReport.default with
    drainedRecords := batch.payloads.length
    droppedRecords := (runtime.processors.pass clock records).1.countP Option.isNone }
  config := runtime.config
  exporters := runtime.exporters
  configGeneration := runtime.configGeneration
  records := (runtime.processors.pass clock records).1.filterMap id

/-- A batch whose payloads are records is taken whole. -/
theorem takeBatch_holds {runtime : AgentRuntime E} {maxItems : Nat} {batch : PendingBatch} {queue : DiskQueue}
    {records : List TelemetryRecord} (clock : Nat → Nat → Nat)
    (read : readBatch maxItems ⟨runtime.queue, []⟩ = .ok batch ⟨queue, []⟩)
    (found : batch.payloads ≠ []) (holds : Holds batch.payloads records) :
    takeBatch maxItems clock ⟨runtime, []⟩ =
      .ok (some (batch, (runtime.work clock batch records).records), (runtime.work clock batch records).report)
        ⟨{ runtime with queue := queue, processors := (runtime.processors.pass clock records).2 }, []⟩ := by
  rw [takeBatch_calm clock read, if_neg (by simpa using found), processPayloads_eq holds]
  simp [AgentRuntime.work]

theorem prepareSharedFlush_paused {session : AgentSession E} {maxItems : Nat} {force : Bool}
    (clock : Nat → Nat → Nat) (paused : (session.runtime.exportsPaused && !force) = true) :
    prepareSharedFlush maxItems force clock session = .ok .nothing session := by
  simp only [prepareSharedFlush, bind_session, getRuntime_session, paused, if_true, pure_session]

theorem prepareSharedFlush_busy {session : AgentSession E} {maxItems : Nat} {force : Bool}
    (clock : Nat → Nat → Nat) (running : (session.runtime.exportsPaused && !force) = false)
    (busy : session.runtime.flushInProgress = true) :
    prepareSharedFlush maxItems force clock session = .ok .waiting session := by
  simp only [prepareSharedFlush, bind_session, getRuntime_session, running, busy, if_true, pure_session,
    Bool.false_eq_true, if_false]

theorem prepareSharedFlush_panics {session : AgentSession E} {maxItems : Nat} {force : Bool}
    (clock : Nat → Nat → Nat) (running : (session.runtime.exportsPaused && !force) = false)
    (free : session.runtime.flushInProgress = false) (large : maxBatchItems < maxItems) :
    prepareSharedFlush maxItems force clock session =
      .error .panicked { session with runtime := session.runtime.recordFlushAttempt } := by
  simp only [prepareSharedFlush, bind_session, getRuntime_session, running, free, modifyRuntime_session,
    counting, prepareFlushWork, takeBatch_panics large, Bool.false_eq_true, if_false]

/-- A shared flush that finds records takes the exporters and raises the flag. -/
theorem prepareSharedFlush_holds {runtime : AgentRuntime E} {maxItems : Nat} {force : Bool}
    {batch : PendingBatch} {queue : DiskQueue} {records : List TelemetryRecord} (clock : Nat → Nat → Nat)
    (running : (runtime.exportsPaused && !force) = false) (free : runtime.flushInProgress = false)
    (read : readBatch maxItems ⟨runtime.queue, []⟩ = .ok batch ⟨queue, []⟩)
    (found : batch.payloads ≠ []) (holds : Holds batch.payloads records) :
    prepareSharedFlush maxItems force clock ⟨runtime, []⟩ =
      .ok (.prepared (runtime.work clock batch records)) ⟨{ runtime.recordFlushAttempt with
        queue := queue
        processors := (runtime.processors.pass clock records).2
        exporters := .empty
        flushInProgress := true }, []⟩ := by
  have taken : takeBatch maxItems clock ⟨runtime.recordFlushAttempt, []⟩ = _ :=
    takeBatch_holds clock read found holds
  simp only [prepareSharedFlush, bind_session, getRuntime_session, running, free, modifyRuntime_session,
    counting, prepareFlushWork, taken, pure_session, Bool.false_eq_true, if_false]
  rfl

/-- One that finds none commits what it has skipped and is over. -/
theorem prepareSharedFlush_none {runtime : AgentRuntime E} {maxItems : Nat} {force : Bool}
    {batch : PendingBatch} {queue : DiskQueue} (clock : Nat → Nat → Nat)
    (running : (runtime.exportsPaused && !force) = false) (free : runtime.flushInProgress = false)
    (read : readBatch maxItems ⟨runtime.queue, []⟩ = .ok batch ⟨queue, []⟩) (none : batch.payloads = []) :
    prepareSharedFlush maxItems force clock ⟨runtime, []⟩ =
      .ok .nothing ⟨AgentRuntime.recordFlushSuccess .default
        { runtime.recordFlushAttempt with queue := queue.afterCommit batch }, []⟩ := by
  have taken : takeBatch maxItems clock ⟨runtime.recordFlushAttempt, []⟩ = _ := takeBatch_calm clock read
  simp only [none, List.isEmpty_nil, if_true, List.length_nil] at taken
  simp only [prepareSharedFlush, bind_session, getRuntime_session, running, free, modifyRuntime_session,
    counting, prepareFlushWork, taken, pure_session, Bool.false_eq_true, if_false]
  rfl

/-- A flush whose export has succeeded commits its batch. -/
theorem completeFlush_ok (runtime : AgentRuntime E) (flush : PreparedFlush E) (exported : FlushReport) :
    completeFlush flush (.ok exported) ⟨runtime, []⟩ =
      .ok (flush.report.withExport exported) ⟨AgentRuntime.recordFlushSuccess (flush.report.withExport exported)
        { runtime.released flush with queue := runtime.queue.afterCommit flush.batch }, []⟩ := by
  have same : (runtime.released flush).queue = runtime.queue := rfl
  simp only [completeFlush_eq, counting, commitFlush, bind_session, onQueue, same, commitBatch_eq, pure_session]

theorem completeFlush_error (runtime : AgentRuntime E) (flush : PreparedFlush E) (error : DiskQueueError)
    (plan : List (Option Fault)) :
    completeFlush flush (.error error) ⟨runtime, plan⟩ =
      .error (.raised (.queue error)) ⟨(runtime.released flush).recordFlushFailure, plan⟩ := by
  simp only [completeFlush_eq, counting, commitFlush, fail_session]

theorem takeBatch_none {maxItems : Nat} {clock : Nat → Nat → Nat} {session later : AgentSession E}
    {report : FlushReport} (taken : takeBatch maxItems clock session = .ok (none, report) later) :
    report = .default := by
  simp only [takeBatch, bind_session] at taken
  cases read : onQueue (readBatch maxItems) session with
  | error halt done => simp [read] at taken
  | ok batch done =>
    simp only [read] at taken
    split_ifs at taken with empty
    · simp only [bind_session] at taken
      cases committed : onQueue (commitBatch batch) done with
      | error halt last => simp [committed] at taken
      | ok count last =>
        simp only [committed, pure_session, EStateM.Result.ok.injEq, Prod.mk.injEq, true_and] at taken
        rw [← taken.1, List.isEmpty_iff.mp empty]
        rfl
    · simp only [bind_session, getRuntime_session, modifyRuntime_session] at taken
      cases outcome : (processPayloads clock batch.payloads [] 0 done.runtime.processors).1 with
      | error error => simp [outcome] at taken
      | ok processed => simp [outcome] at taken

/-- A shared flush between whose lock acquisitions nothing happens is a flush. -/
theorem flushShared_eq_flush (maxItems : Nat) (force : Bool) (clock : Nat → Nat → Nat) (respond : Responses)
    {session : AgentSession E} (running : session.runtime.exportsPaused = false)
    (free : session.runtime.flushInProgress = false) :
    flushShared maxItems force clock respond session = flush maxItems clock respond session := by
  simp only [flushShared, flush, prepareSharedFlush, prepareFlushWork, flushInner, bind_session,
    getRuntime_session, running, free, modifyRuntime_session, counting, Bool.false_and, Bool.false_eq_true,
    if_false]
  cases taken : takeBatch maxItems clock { session with runtime := session.runtime.recordFlushAttempt } with
  | error halt later => cases halt <;> rfl
  | ok value later =>
    obtain ⟨found, report⟩ := value
    cases found with
    | none =>
      obtain rfl := takeBatch_none taken
      rfl
    | some work =>
      obtain ⟨batch, records⟩ := work
      have kept := (takeBatch_unsteered maxItems clock).of_ok taken
      have flag : later.runtime.flushInProgress = false := (congrArg Control.flushInProgress kept).trans free
      simp only [bind_session, getRuntime_session, modifyRuntime_session, pure_session, completeFlush_eq,
        PreparedFlushState.settle]
      -- with the exporters back and the flag down, the runtime is the one behind the read
      have back : ({ later.runtime with exporters := .empty, flushInProgress := true } : AgentRuntime E).released
          ⟨batch, report, later.runtime.config, later.runtime.exporters, later.runtime.configGeneration, records⟩ =
          later.runtime := by
        simp only [AgentRuntime.released, if_true]
        rw [← flag]
      rw [back]
      cases exportRecords later.runtime.config later.runtime.exporters respond records with
      | error error => rfl
      | ok exported =>
        simp only [counting, commitFlush, ofExcept_ok, bind_session, pure_session]

end TelemetryFabric.Agent
