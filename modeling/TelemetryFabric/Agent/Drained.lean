import TelemetryFabric.Agent.HeadOfQueue
import TelemetryFabric.Agent.Quota
import TelemetryFabric.Buffer.Drained

/-!
Backpressure once the backlog is gone. `ingest` compares all bytes on disk with the quota,
and the bytes of committed records stay on disk for as long as their segment is the active
one; a new segment is only started by an `ingest` that got past the comparison.
-/

namespace TelemetryFabric.Agent
open Library TelemetryFabric.Core Buffer Processors

variable {E : Type}

/-- Nothing fails, the queue is tidy, and it can be read from the cursors. -/
structure Quiet (cursors : List Cursor) (session : AgentSession E) : Prop where
  plan : session.plan = []
  tidy : session.runtime.queue.Tidy
  legal : ∀ cursor ∈ cursors, session.runtime.queue.Legal cursor

/-- A commit does not touch the size of the active segment. -/
structure Resting (bytes : Nat) (cursors : List Cursor) (session : AgentSession E) : Prop extends
    Quiet cursors session where
  active : session.runtime.queue.activeSegmentBytes = bytes

theorem activeSegmentBytes_afterCommit (queue : DiskQueue) (batch : PendingBatch) :
    (queue.afterCommit batch).activeSegmentBytes = queue.activeSegmentBytes := by
  unfold DiskQueue.afterCommit
  split_ifs <;> rfl

namespace Resting

variable {bytes : Nat} {cursors : List Cursor} {session : AgentSession E} {runtime : AgentRuntime E}

theorem of_queue (quiet : Resting bytes cursors session) (same : runtime.queue = session.runtime.queue) :
    Resting bytes cursors { session with runtime := runtime } := by
  refine ⟨⟨quiet.plan, ?_, ?_⟩, ?_⟩
  · change runtime.queue.Tidy
    rw [same]
    exact quiet.tidy
  · change ∀ cursor ∈ cursors, runtime.queue.Legal cursor
    rw [same]
    exact quiet.legal
  · change runtime.queue.activeSegmentBytes = bytes
    rw [same]
    exact quiet.active

theorem modifyRuntime {change : AgentRuntime E → AgentRuntime E}
    (unaffected : ∀ runtime, (change runtime).queue = runtime.queue) :
    Ensures (Resting bytes cursors) (Agent.modifyRuntime change) (fun _ => Resting bytes cursors) (Resting bytes cursors) :=
  fun session quiet => quiet.of_queue (unaffected session.runtime)

theorem ofExcept {ε α : Type} (toError : ε → AgentError) (outcome : Except ε α) :
    Ensures (Resting bytes cursors) (Agent.ofExcept toError outcome : AgentM E α) (fun _ => Resting bytes cursors)
      (Resting bytes cursors) := by
  intro session quiet
  cases outcome <;> exact quiet

theorem counting {α : Type} {program : AgentM E α} {success : α → AgentRuntime E → AgentRuntime E}
    {failure : AgentRuntime E → AgentRuntime E} {found : α → List Cursor}
    (keeps : Ensures (Resting bytes cursors) program (fun value => Resting bytes (found value)) (Resting bytes cursors))
    (succeeded : ∀ value runtime, (success value runtime).queue = runtime.queue)
    (failed : ∀ runtime, (failure runtime).queue = runtime.queue) :
    Ensures (Resting bytes cursors) (Agent.counting program success failure) (fun value => Resting bytes (found value))
      (Resting bytes cursors) := by
  intro session quiet
  have result := keeps session quiet
  unfold Agent.counting
  cases ran : program session with
  | ok value later =>
    rw [ran] at result
    exact result.of_queue (succeeded value later.runtime)
  | error halt later =>
    rw [ran] at result
    cases halt with
    | raised error => exact result.of_queue (failed later.runtime)
    | panicked => exact result
    | crashed => exact result
    | unfinished => exact result

/-- Any batch may be committed whose end can be read from. -/
theorem commitBatch (batch : PendingBatch) (member : batch.nextCursor ∈ cursors) :
    Ensures (Resting bytes cursors) (onQueue (Buffer.commitBatch batch) : AgentM E Nat) (fun _ => Resting bytes cursors)
      (Resting bytes cursors) := by
  rintro ⟨runtime, plan⟩ quiet
  obtain rfl : plan = [] := quiet.plan
  simp only [onQueue, commitBatch_eq]
  exact ⟨⟨rfl, quiet.tidy.afterCommit (quiet.legal _ member),
    fun cursor other => (quiet.legal cursor other).afterCommit batch⟩,
    (activeSegmentBytes_afterCommit _ batch).trans quiet.active⟩

theorem readBatch (maxItems : Nat) :
    Ensures (Resting bytes cursors) (onQueue (Buffer.readBatch maxItems) : AgentM E PendingBatch)
      (fun batch => Resting bytes (batch.nextCursor :: cursors)) (Resting bytes cursors) := by
  rintro ⟨runtime, plan⟩ quiet
  obtain rfl : plan = [] := quiet.plan
  by_cases fits : maxItems ≤ maxBatchItems
  · obtain ⟨batch, read, legal⟩ := quiet.tidy.reads fits
    simp only [onQueue, read]
    exact ⟨⟨rfl, quiet.tidy, List.forall_mem_cons.mpr ⟨legal, quiet.legal⟩⟩, quiet.active⟩
  · simp only [onQueue, readBatch_panics (Nat.not_le.mp fits)]
    exact quiet

theorem drop {cursor : Cursor} (quiet : Resting bytes (cursor :: cursors) session) : Resting bytes cursors session :=
  ⟨⟨quiet.plan, quiet.tidy, (List.forall_mem_cons.mp quiet.legal).2⟩, quiet.active⟩

end Resting

/-! ### The methods -/

/-- The ends of the batches that are left to be committed. -/
def foundCursor (found : Option (PendingBatch × List TelemetryRecord)) : List Cursor :=
  found.elim [] fun work => [work.1.nextCursor]

def PreparedFlushState.cursors : PreparedFlushState E → List Cursor
  | .empty _ => []
  | .ready flush => [flush.batch.nextCursor]

def Turn.cursors : Turn E → List Cursor
  | .nothing => []
  | .waiting => []
  | .prepared flush => [flush.batch.nextCursor]

section Methods

variable {bytes : Nat} {cursors : List Cursor}

theorem takeBatch_quiet (maxItems : Nat) (clock : Nat → Nat → Nat) :
    Ensures (Resting bytes cursors) (takeBatch maxItems clock :
      AgentM E (Option (PendingBatch × List TelemetryRecord) × FlushReport))
      (fun value => Resting bytes (foundCursor value.1 ++ cursors)) (Resting bytes cursors) := by
  intro session quiet
  have read := Resting.readBatch maxItems session quiet
  simp only [takeBatch, bind_session]
  cases ran : onQueue (readBatch maxItems) session with
  | error halt later =>
    rw [ran] at read
    exact read
  | ok batch later =>
    rw [ran] at read
    simp only
    split_ifs with empty
    · have committed := Resting.commitBatch batch List.mem_cons_self later read
      simp only [bind_session]
      cases done : onQueue (commitBatch batch) later with
      | error halt last =>
        rw [done] at committed
        exact committed.drop
      | ok count last =>
        rw [done] at committed
        exact committed.drop
    · simp only [bind_session, getRuntime_session, modifyRuntime_session]
      have kept : Resting bytes (batch.nextCursor :: cursors) { later with runtime := { later.runtime with
          processors := (processPayloads clock batch.payloads [] 0 later.runtime.processors).2 } } :=
        read.of_queue rfl
      cases (processPayloads clock batch.payloads [] 0 later.runtime.processors).1 with
      | error error => exact kept.drop
      | ok processed => exact kept

theorem prepareSharedFlush_quiet (maxItems : Nat) (force : Bool) (clock : Nat → Nat → Nat) :
    Ensures (Resting bytes cursors) (prepareSharedFlush maxItems force clock : AgentM E (Turn E))
      (fun turn => Resting bytes (turn.cursors ++ cursors)) (Resting bytes cursors) := by
  intro session quiet
  have work : Ensures (Resting bytes cursors) (prepareFlushWork maxItems clock : AgentM E (PreparedFlushState E))
      (fun state => Resting bytes (state.cursors ++ cursors)) (Resting bytes cursors) := by
    refine Ensures.bind (takeBatch_quiet maxItems clock) ?_
    rintro ⟨found, report⟩ later kept
    cases found with
    | none => exact kept
    | some work => exact kept.of_queue rfl
  have counted : Ensures (Resting bytes cursors) (Agent.counting (prepareFlushWork maxItems clock)
      PreparedFlushState.settle AgentRuntime.recordFlushFailure)
      (fun state => Resting bytes (PreparedFlushState.cursors (E := E) state ++ cursors)) (Resting bytes cursors) :=
    Resting.counting work (fun state runtime => by cases state <;> rfl) (fun _ => rfl)
  simp only [prepareSharedFlush, bind_session, getRuntime_session]
  split_ifs with paused busy
  · exact quiet
  · exact quiet
  · have result := counted { session with runtime := session.runtime.recordFlushAttempt } (quiet.of_queue rfl)
    simp only [bind_session, modifyRuntime_session]
    cases ran : Agent.counting (prepareFlushWork maxItems clock) PreparedFlushState.settle
        .recordFlushFailure { session with runtime := session.runtime.recordFlushAttempt } with
    | error halt later =>
      rw [ran] at result
      exact result
    | ok state later =>
      rw [ran] at result
      cases state <;> exact result

theorem completeFlush_quiet (flush : PreparedFlush E) (result : Except DiskQueueError FlushReport)
    (member : flush.batch.nextCursor ∈ cursors) :
    Ensures (Resting bytes cursors) (completeFlush flush result) (fun _ => Resting bytes cursors) (Resting bytes cursors) := by
  have finish : Ensures (Resting bytes cursors) (commitFlush flush result) (fun _ => Resting bytes cursors) (Resting bytes cursors) := by
    cases result with
    | ok exported => exact Ensures.bind (Resting.commitBatch flush.batch member) fun _ _ kept => kept
    | error error => exact fun _ quiet => quiet
  have counted : Ensures (Resting bytes cursors) (Agent.counting (commitFlush flush result)
      AgentRuntime.recordFlushSuccess AgentRuntime.recordFlushFailure) (fun _ => Resting bytes cursors) (Resting bytes cursors) :=
    Resting.counting finish (fun _ _ => rfl) (fun _ => rfl)
  intro session quiet
  rw [completeFlush_eq]
  exact counted { session with runtime := session.runtime.released flush } (quiet.of_queue rfl)

theorem flush_quiet (maxItems : Nat) (clock : Nat → Nat → Nat) (respond : Responses) :
    Ensures (Resting bytes cursors) (flush maxItems clock respond : AgentM E FlushReport) (fun _ => Resting bytes cursors)
      (Resting bytes cursors) := by
  have inner : Ensures (Resting bytes cursors) (flushInner maxItems clock respond : AgentM E FlushReport)
      (fun _ => Resting bytes cursors) (Resting bytes cursors) := by
    intro session quiet
    have taken := takeBatch_quiet maxItems clock session quiet
    simp only [flushInner, bind_session]
    cases ran : takeBatch maxItems clock session with
    | error halt later =>
      rw [ran] at taken
      exact taken
    | ok value later =>
      rw [ran] at taken
      obtain ⟨found, report⟩ := value
      cases found with
      | none => exact taken
      | some work =>
        have committed := Resting.commitBatch work.1 List.mem_cons_self later taken
        simp only [bind_session, getRuntime_session]
        cases exportRecords later.runtime.config later.runtime.exporters respond work.2 with
        | error error => exact Resting.drop taken
        | ok exported =>
          simp only [ofExcept_ok, pure_session]
          cases done : onQueue (commitBatch work.1) later with
          | error halt last =>
            rw [done] at committed
            exact committed.drop
          | ok count last =>
            rw [done] at committed
            exact committed.drop
  have counted : Ensures (Resting bytes cursors) (Agent.counting (flushInner maxItems clock respond)
      AgentRuntime.recordFlushSuccess AgentRuntime.recordFlushFailure : AgentM E FlushReport)
      (fun _ => Resting bytes cursors) (Resting bytes cursors) :=
    Resting.counting inner (fun _ _ => rfl) (fun _ => rfl)
  intro session quiet
  simp only [flush, bind_session, getRuntime_session]
  split_ifs
  · exact quiet
  · simp only [bind_session, modifyRuntime_session]
    exact counted { session with runtime := session.runtime.recordFlushAttempt } (quiet.of_queue rfl)

end Methods

/-! ### Runs -/

namespace AgentState

variable {state next : AgentState E}

/-- The queue is tidy, and every flush that has been prepared could be committed. -/
structure Tended (state : AgentState E) : Prop where
  tidy : state.runtime.queue.Tidy
  tasks : ∀ task ∈ state.tasks, state.runtime.queue.Legal task.prepared.batch.nextCursor

/-- The ends of the batches of all prepared flushes. -/
def pendingCursors (state : AgentState E) : List Cursor :=
  state.tasks.map fun task => task.prepared.batch.nextCursor

/-- The active segment is empty as long as nothing has been ingested. -/
def Unused (state : AgentState E) : Prop :=
  state.ingested = [] ↔ state.runtime.queue.activeSegmentBytes = 0

/-- What a step without file-system errors keeps. -/
structure Onward (state next : AgentState E) : Prop where
  tended : next.Tended
  unused : state.Unused → next.Unused

theorem Unused.congr (unused : state.Unused) (ingested : next.ingested = state.ingested)
    (active : next.runtime.queue.activeSegmentBytes = state.runtime.queue.activeSegmentBytes) : next.Unused := by
  unfold Unused
  rw [ingested, active]
  exact unused

theorem Tended.resting (tended : state.Tended) :
    Resting state.runtime.queue.activeSegmentBytes state.pendingCursors ⟨state.runtime, []⟩ := by
  refine ⟨⟨rfl, tended.tidy, ?_⟩, rfl⟩
  intro cursor member
  obtain ⟨task, inside, rfl⟩ := List.mem_map.mp member
  exact tended.tasks task inside

theorem onward_of_resting {cursors : List Cursor} {session : AgentSession E}
    (resting : Resting state.runtime.queue.activeSegmentBytes cursors session) (runtime : next.runtime = session.runtime)
    (pending : ∀ task ∈ next.tasks, task.prepared.batch.nextCursor ∈ cursors) (ingested : next.ingested = state.ingested) :
    Onward state next := by
  have active := resting.active
  rw [← runtime] at active
  refine ⟨⟨runtime ▸ resting.tidy, ?_⟩, fun unused => unused.congr ingested active⟩
  intro task member
  rw [runtime]
  exact resting.legal _ (pending task member)

theorem step_onward (tended : state.Tended) {operation : AgentOperation E}
    (allowed : operation.Undisturbed state) (taken : state.step operation = some next) : Onward state next := by
  have pending : ∀ task ∈ state.tasks, task.prepared.batch.nextCursor ∈ state.pendingCursors :=
    fun task member => List.mem_map_of_mem member
  cases operation with
  | ingest record plan =>
    obtain rfl : plan = [] := allowed.1
    rcases step_ingest_calm allowed taken with ⟨payload, full, admissible, room, bytes, rfl⟩ | rfl
    · refine ⟨⟨tended.tidy.enqueued admissible.small room bytes, fun task member =>
        (tended.tasks task member).enqueued tended.tidy.balanced.topped admissible.small room bytes⟩, ?_⟩
      intro _
      apply iff_of_false
      · exact List.append_ne_nil_of_right_ne_nil _ (List.cons_ne_nil _ _)
      · exact Nat.ne_of_gt (Nat.add_pos_right _ (Nat.add_pos_left (by decide) _))
    · exact ⟨⟨tended.tidy, tended.tasks⟩, id⟩
  | reload config build =>
    rcases step_reload taken with ⟨exporters, -, -, rfl⟩ | ⟨error, session, -, rfl⟩
    · refine ⟨⟨tended.tidy, ?_⟩, id⟩
      intro task member
      obtain ⟨old, before, rfl⟩ := List.mem_map.mp member
      exact tended.tasks old before
    · exact ⟨⟨tended.tidy, tended.tasks⟩, id⟩
  | pause =>
    cases taken
    exact ⟨⟨tended.tidy, tended.tasks⟩, id⟩
  | resume =>
    cases taken
    exact ⟨⟨tended.tidy, tended.tasks⟩, id⟩
  | prepare maxItems force clock plan =>
    obtain rfl : plan = [] := allowed
    have result := prepareSharedFlush_quiet maxItems force clock _ tended.resting
    simp only [step] at taken
    cases ran : prepareSharedFlush maxItems force clock ⟨state.runtime, []⟩ with
    | error halt later =>
      rw [ran] at taken result
      cases halt <;> cases taken
      exact onward_of_resting result rfl pending rfl
    | ok turn later =>
      rw [ran] at taken result
      cases turn with
      | nothing =>
        cases taken
        exact onward_of_resting result rfl pending rfl
      | waiting =>
        cases taken
        exact onward_of_resting result rfl pending rfl
      | prepared flush =>
        cases taken
        refine onward_of_resting result rfl ?_ rfl
        intro task member
        rcases List.mem_append.mp member with before | new
        · exact List.mem_cons_of_mem _ (pending task before)
        · rw [List.mem_singleton.mp new]
          exact List.mem_cons_self
  | deliver index respond =>
    obtain ⟨task, outcome, found, -, -, rfl⟩ := step_deliver taken
    refine ⟨⟨tended.tidy, ?_⟩, id⟩
    intro other member
    rcases List.mem_or_eq_of_mem_set member with before | rfl
    · exact tended.tasks other before
    · exact tended.tasks task (List.mem_of_getElem? found)
  | complete index plan =>
    obtain rfl : plan = [] := allowed
    simp only [step] at taken
    cases found : state.tasks[index]? with
    | none => simp [found] at taken
    | some task =>
      simp only [found] at taken
      have left : ∀ other ∈ state.tasks.eraseIdx index,
          other.prepared.batch.nextCursor ∈ state.pendingCursors :=
        fun other member => pending other (List.mem_of_mem_eraseIdx member)
      cases returned : task.outcome with
      | none => simp [returned] at taken
      | some outcome =>
        simp only [returned] at taken
        have result := completeFlush_quiet task.prepared outcome
          (pending task (List.mem_of_getElem? found)) _ tended.resting
        cases ran : completeFlush task.prepared outcome ⟨state.runtime, []⟩ with
        | error halt later =>
          rw [ran] at taken result
          cases halt <;> cases taken
          exact onward_of_resting result rfl left rfl
        | ok report later =>
          rw [ran] at taken result
          cases taken
          exact onward_of_resting result rfl left rfl
  | flush maxItems clock respond plan =>
    obtain rfl : plan = [] := allowed
    have result := flush_quiet maxItems clock respond _ tended.resting
    simp only [step] at taken
    cases ran : Agent.flush maxItems clock respond ⟨state.runtime, []⟩ with
    | error halt later =>
      rw [ran] at taken result
      cases halt <;> cases taken
      exact onward_of_resting result rfl pending rfl
    | ok report later =>
      rw [ran] at taken result
      cases taken
      exact onward_of_resting result rfl pending rfl
  | restart config options build =>
    simp only [step] at taken
    cases opened : AgentRuntime.openDir config state.runtime.queue.dir options build with
    | error error => simp [opened] at taken
    | ok runtime =>
      rw [opened] at taken
      cases taken
      obtain ⟨-, exporters, -, rfl⟩ := openDir_eq_ok opened
      refine ⟨⟨tended.tidy.reopened options, fun task member => ?_⟩, fun unused => unused.congr rfl ?_⟩
      · cases member
      · change (DiskQueue.openDir state.runtime.queue.dir options).activeSegmentBytes = _
        rw [tended.tidy.pristine.sound.openDir_eq options, tended.tidy.balanced.active]

/-- In every state that such steps lead to. -/
theorem onward_of_reaches {config : PipelineConfig} {path : String} {options : DiskQueueOptions}
    {build : ExporterConfig → Except ExporterError E} {runtime : AgentRuntime E}
    (opened : AgentRuntime.openDir config (.fresh path) options build = .ok runtime)
    (reached : Reaches step (fun state operation => operation.Undisturbed state) (start runtime) state) :
    state.Tended ∧ state.Unused := by
  apply reached.invariant (P := fun state => state.Tended ∧ state.Unused)
  · obtain ⟨-, exporters, -, rfl⟩ := openDir_eq_ok opened
    refine ⟨⟨DiskQueue.Tidy.fresh path options, fun task member => ?_⟩, iff_of_true rfl rfl⟩
    cases member
  · intro state operation next kept allowed taken
    have onward := step_onward kept.1 allowed taken
    exact ⟨onward.tended, onward.unused kept.2⟩

end AgentState

/-! ### When a drained queue accepts -/

/-- Together with what is left of the active segment the record fits the quota, and neither
the segment ids nor the size of a file are at their end. -/
structure Readmits (runtime : AgentRuntime E) (payload : Bytes) : Prop where
  small : payload.length ≤ u32Max
  quota : runtime.queue.activeSegmentBytes + (recordHeaderLen + payload.length) ≤
    runtime.config.limits.maxQueueBytes.toNat
  room : runtime.queue.rotates payload → runtime.queue.activeSegmentId < u64Max
  fits : ¬ runtime.queue.rotates payload →
    runtime.queue.activeSegmentBytes + (recordHeaderLen + payload.length) ≤ maxFileLen

theorem saturatingAdd_of_drained {runtime : AgentRuntime E} (tidy : runtime.queue.Tidy)
    (nothing : runtime.queue.readable = []) {payload : Bytes} (small : payload.length ≤ u32Max) :
    saturatingAdd runtime.queue.queuedBytes (recordHeaderLen + payload.length) =
      runtime.queue.activeSegmentBytes + (recordHeaderLen + payload.length) := by
  have counted := tidy.queuedBytes_of_drained nothing
  have active := tidy.balanced.active
  have limit := runtime.queue.activeFile.fits
  rw [SegmentFile.len] at active
  unfold saturatingAdd
  simp only [u32Max, u64Max, recordHeaderLen, maxFileLen] at *
  omega

theorem readmits_of_ingest {runtime : AgentRuntime E} (tidy : runtime.queue.Tidy)
    (nothing : runtime.queue.readable = []) {record : TelemetryRecord} {payload : Bytes}
    (encoded : record.encode = .ok payload) {later : AgentSession E}
    (done : ingest record ⟨runtime, []⟩ = .ok () later) : Readmits runtime payload := by
  rcases ingest_calm runtime record with
    ⟨other, full, admissible, room, bytes, -⟩ | ⟨error, -, refused⟩ | ⟨last, failed⟩
  · obtain rfl : other = payload := by
      have same := admissible.encoded
      rw [encoded] at same
      exact (Except.ok.inj same).symm
    refine ⟨admissible.small, ?_, room, ?_⟩
    · rw [← saturatingAdd_of_drained tidy nothing admissible.small]
      exact admissible.quota
    · intro still
      have size := full.fits
      rw [bytes, DiskQueue.rotated, if_neg still, List.length_append, length_frame] at size
      rw [tidy.balanced.active]
      exact size
  · rw [done] at refused
    cases refused
  · rw [done] at failed
    cases failed

theorem ingest_of_readmits {runtime : AgentRuntime E} (tidy : runtime.queue.Tidy)
    (nothing : runtime.queue.readable = []) {record : TelemetryRecord} {payload : Bytes}
    (valid : record.validate runtime.config.limits.maxRecordBytes.toNat = .ok ())
    (encoded : record.encode = .ok payload) (readmits : Readmits runtime payload) :
    ∃ later, ingest record ⟨runtime, []⟩ = .ok () later := by
  have admissible : Admissible runtime record payload := by
    refine ⟨valid, encoded, readmits.small, ?_⟩
    rw [saturatingAdd_of_drained tidy nothing readmits.small]
    exact readmits.quota
  have fits : (runtime.queue.rotated payload).activeFile.len + (frame payload).length ≤ maxFileLen := by
    rw [length_frame]
    by_cases rotates : runtime.queue.rotates payload
    · rw [DiskQueue.rotated, if_pos rotates, activeFile_startSegment]
      have small := readmits.small
      simp only [SegmentFile.len, SegmentFile.empty, List.length_nil, recordHeaderLen, u32Max, maxFileLen] at *
      omega
    · rw [DiskQueue.rotated, if_neg rotates, ← tidy.balanced.active]
      exact readmits.fits rotates
  obtain ⟨full, -, stored⟩ := enqueue_calm runtime.queue payload readmits.small readmits.room fits
  rw [ingest_admissible admissible]
  exact ⟨_, by simp only [counting, onQueue, stored]; rfl⟩

/-- In every state that a runtime opened on an empty directory reaches without a file-system
error, with any configurations, reloads and restarts: if nothing is readable, a valid record
is accepted if and only if it fits the quota together with the committed bytes that are still
in the active segment. -/
theorem drained_ingest_iff {config : PipelineConfig} {path : String} {options : DiskQueueOptions}
    {build : ExporterConfig → Except ExporterError E} {runtime : AgentRuntime E}
    (opened : AgentRuntime.openDir config (.fresh path) options build = .ok runtime)
    {state : AgentState E}
    (reached : Reaches AgentState.step (fun state operation => operation.Undisturbed state)
      (.start runtime) state)
    (nothing : state.runtime.queue.readable = []) {record : TelemetryRecord} {payload : Bytes}
    (valid : record.validate state.runtime.config.limits.maxRecordBytes.toNat = .ok ())
    (encoded : record.encode = .ok payload) :
    (∃ later, ingest record ⟨state.runtime, []⟩ = .ok () later) ↔ Readmits state.runtime payload := by
  have tended := (AgentState.onward_of_reaches opened reached).1
  constructor
  · rintro ⟨later, done⟩
    exact readmits_of_ingest tended.tidy nothing encoded done
  · exact ingest_of_readmits tended.tidy nothing valid encoded

/-- A quota for less than two of the smallest records. -/
def tightQuota : PipelineConfig :=
  { PipelineConfig.default with limits := { TenantLimits.default with maxQueueBytes := 60 } }

def tightRuntime : AgentRuntime Unit :=
  ⟨tightQuota, .openDir (.fresh "queue") ⟨1000, false⟩, .fromConfig tightQuota,
    OrderedMap.empty.insert "stdout" (), .default, false, 0, false⟩

theorem tightRuntime_opened :
    AgentRuntime.openDir tightQuota (.fresh "queue") ⟨1000, false⟩ (fun _ => .ok ()) = .ok tightRuntime := by
  have valid : tightQuota.validate = .ok () := by decide +kernel
  unfold AgentRuntime.openDir
  rw [valid]
  rfl

/-- A record is ingested, exported and committed. -/
def oneDrained : List (AgentOperation Unit) :=
  [.ingest (leastRecord .log) [], .flush 10 (fun _ _ => 0) (fun _ _ _ => .delivered ⟨1, 1⟩) []]

/-- The steps of a run without file-system errors. -/
def undisturbed (state : AgentState Unit) (operation : AgentOperation Unit) : Option (AgentState Unit) :=
  if operation.Undisturbed state then state.step operation else none

/-- Behind the first record of the default configuration there is room for another one. -/
theorem drained_ingest_default :
    ∃ state : AgentState Unit, Library.run undisturbed (.start defaultRuntime) oneDrained = some state ∧
      state.runtime.queue.readable = [] ∧
      ∃ later, ingest (leastRecord .log) ⟨state.runtime, []⟩ = .ok () later := by
  have ran : (Library.run undisturbed (.start defaultRuntime) oneDrained).map (fun state =>
      (state.runtime.queue.readable, state.runtime.config.limits.maxRecordBytes.toNat,
        state.runtime.config.limits.maxQueueBytes.toNat, state.runtime.queue.activeSegmentBytes,
        state.runtime.queue.activeSegmentId, state.runtime.queue.options.maxSegmentBytes)) =
      some ([], 4194304, 10737418240, 38, 1, 1000) := by
    decide +kernel
  obtain ⟨state, reached, facts⟩ := Option.map_eq_some_iff.mp ran
  simp only [Prod.mk.injEq] at facts
  obtain ⟨nothing, records, bytes, active, id, segment⟩ := facts
  have valid : (leastRecord .log).validate state.runtime.config.limits.maxRecordBytes.toNat = .ok () := by
    rw [records]
    decide +kernel
  refine ⟨state, reached, nothing, (drained_ingest_iff defaultRuntime_opened (.of_checked_run reached) nothing
    valid (leastRecord_encode .log)).mpr ?_⟩
  have size := length_leastPayload .log
  have still : ¬ state.runtime.queue.rotates (leastPayload .log) := by
    rw [DiskQueue.rotates, active, segment, size]
    decide
  refine ⟨by rw [size]; decide, by rw [active, bytes, size]; decide, fun rotates => absurd rotates still, ?_⟩
  intro _
  rw [active, size]
  decide

/-- Nothing is readable and the quota has room for the record, but the committed record fills
the active segment and the queue is reported full. -/
theorem drained_queue_stays_full :
    AgentRuntime.openDir tightQuota (.fresh "queue") ⟨1000, false⟩ (fun _ => .ok ()) = .ok tightRuntime ∧
    (leastRecord .log).validate tightQuota.limits.maxRecordBytes.toNat = .ok () ∧
    (leastRecord .log).encode = .ok (leastPayload .log) ∧
    (leastPayload .log).length + recordHeaderLen ≤ tightQuota.limits.maxQueueBytes.toNat ∧
    ∃ state : AgentState Unit, Library.run undisturbed (.start tightRuntime) oneDrained = some state ∧
      state.runtime.queue.readable = [] ∧ state.committed = 1 ∧
      ∃ later, ingest (leastRecord .log) ⟨state.runtime, []⟩ =
        .error (.raised (.runtime (.queueFull 38 38 60))) later := by
  refine ⟨tightRuntime_opened, by decide +kernel, leastRecord_encode .log, ?_, ?_⟩
  · rw [length_leastPayload]
    decide
  have ran : (Library.run undisturbed (.start tightRuntime) oneDrained).map (fun state =>
      (state.runtime.queue.readable, state.committed, state.runtime.config.limits.maxRecordBytes.toNat,
        state.runtime.config.limits.maxQueueBytes.toNat, state.runtime.queue.queuedBytes)) =
      some ([], 1, 4194304, 60, 38) := by
    decide +kernel
  obtain ⟨state, reached, facts⟩ := Option.map_eq_some_iff.mp ran
  simp only [Prod.mk.injEq] at facts
  obtain ⟨nothing, committed, records, bytes, queued⟩ := facts
  have valid : (leastRecord .log).validate state.runtime.config.limits.maxRecordBytes.toNat = .ok () := by
    rw [records]
    decide +kernel
  have size := length_leastPayload .log
  have full := ingest_full valid (leastRecord_encode .log) (by rw [size]; decide)
    (by rw [bytes, queued, size]; decide) []
  rw [bytes, queued, size] at full
  exact ⟨state, reached, nothing, committed, _, full⟩

end TelemetryFabric.Agent
