import TelemetryFabric.Buffer.Covered
import TelemetryFabric.Buffer.Ending
import Mathlib.Logic.Relation

/-!
A commit that fails. `commit_cursor` moves the cursor in memory first, then removes the older
segments and persists the cursor last. Whichever of its calls fails, the byte counter is right
and the cursor file has not changed, so that the two cursors are the same only where the file
held the new one already.
-/

namespace TelemetryFabric.Buffer
open Library

/-- The byte counter is the size of the segment files. -/
structure DiskQueue.Exact (queue : DiskQueue) : Prop extends queue.Bounded 0 where
  bytes : queue.queuedBytes = queue.dir.segmentBytes

/-- The next process would go on where this one does. -/
def DiskQueue.Agrees (queue : DiskQueue) : Prop := readCursor queue.dir = some queue.cursor

/-- What is asked of an operation that returns `Err`. -/
def LeftInStep (session later : Session) : Prop :=
  later.queue.Agrees ∧ (session.queue.Exact → later.queue.Exact)

/-! ### The counter -/

namespace DiskQueue.Exact

variable {queue later : DiskQueue}

theorem congr (exact : queue.Exact) (segments : later.dir.segments = queue.dir.segments)
    (active : later.activeSegmentId = queue.activeSegmentId) (queued : later.queuedBytes = queue.queuedBytes) :
    later.Exact := by
  apply DiskQueue.Exact.mk (exact.toBounded.congr segments active)
  rw [Directory.segmentBytes, segments, queued]
  exact exact.bytes

theorem erased (exact : queue.Exact) {id : Nat} {file : SegmentFile}
    (found : queue.dir.segments.find? id = some file) (segments : later.dir.segments = queue.dir.segments.erase id)
    (active : later.activeSegmentId = queue.activeSegmentId)
    (queued : later.queuedBytes = queue.queuedBytes - file.len) : later.Exact := by
  apply DiskQueue.Exact.mk (exact.toBounded.erased segments active)
  have sums := segmentBytes_erased found segments
  have bytes := exact.bytes
  omega

theorem started (exact : queue.Exact) {id : Nat} (above : queue.activeSegmentId < id) :
    (queue.startSegment id).Exact := by
  apply DiskQueue.Exact.mk (exact.toBounded.started above)
  rw [DiskQueue.Balanced.startSegment_segmentBytes (exact.absent above)]
  exact exact.bytes

end DiskQueue.Exact

theorem reads_exact : KeptByReads DiskQueue.Exact where
  aside := by
    intro queue id file suffix exact found
    apply exact.erased found
    · change (queue.dir.renameCorrupt id suffix).segments = _
      rw [Directory.renameCorrupt, found]
    · rfl
    · rfl
  reason := fun _ _ _ exact => exact.congr rfl rfl rfl
  numbered := fun exact above => ⟨exact.toBounded.advanced above, exact.bytes⟩
  started := fun exact above => exact.started above

theorem commits_exact : KeptByCommits DiskQueue.Exact where
  moved := fun _ exact => exact.congr rfl rfl rfl
  removed := fun exact found => exact.erased found rfl rfl rfl
  tmp := fun _ exact => exact.congr rfl rfl rfl
  renamed := fun exact => exact.congr rfl rfl rfl

/-! ### The two cursors -/

theorem readCursor_congr {dir other : Directory} (same : dir.cursor = other.cursor) :
    readCursor dir = readCursor other := by
  rw [readCursor, readCursor, same]

theorem commits_marked (cursor : Cursor) (text : Option (List Char)) :
    SparedByCommits (DiskQueue.Marked cursor text) where
  removed := fun marked _ => marked
  tmp := fun _ marked => marked

/-- A commit that fails has moved the cursor in memory and left the one on disk. -/
theorem agrees_of_failed {cursor : Cursor} {session later : Session} {halt : Halt}
    (failed : commitCursor cursor session = .error halt later) :
    later.queue.Agrees ↔ readCursor session.queue.dir = some cursor := by
  have marked : later.queue.Marked cursor session.queue.dir.cursor :=
    commitCursor_failed (commits_marked cursor session.queue.dir.cursor) ⟨rfl, rfl⟩ failed
  rw [DiskQueue.Agrees, readCursor_congr marked.2, marked.1]

/-- The counter is never what is out of step. -/
theorem leftInStep_iff_agrees {α : Type} {program : QueueM α} {session later : Session} {halt : Halt}
    (retains : Retains DiskQueue.Exact program) (failed : program session = .error halt later) :
    LeftInStep session later ↔ later.queue.Agrees := by
  constructor
  · exact And.left
  · intro agrees
    exact ⟨agrees, retains.of_error failed⟩

theorem commitBatch_failed {batch : PendingBatch} {session later : Session} {halt : Halt}
    (failed : commitBatch batch session = .error halt later) :
    (batch.payloads.length > 0 ∨ batch.shouldCommit) ∧ commitCursor batch.nextCursor session = .error halt later := by
  unfold commitBatch at failed
  split_ifs at failed with moves
  · apply And.intro moves
    rw [bind_apply] at failed
    cases ran : commitCursor batch.nextCursor session with
    | ok done middle =>
      rw [ran] at failed
      cases failed
    | error other middle =>
      rw [ran] at failed
      cases failed
      rfl
  · cases failed

/-! ### Going on from a step -/

def Cursor.Before (first second : Cursor) : Prop :=
  first.segmentId < second.segmentId ∨ first.segmentId = second.segmentId ∧ first.offset < second.offset

theorem Cursor.Before.trans {first second third : Cursor} (early : first.Before second) (late : second.Before third) :
    first.Before third := by
  unfold Cursor.Before at early late ⊢
  omega

theorem Cursor.Before.ne {first second : Cursor} (before : first.Before second) : first ≠ second := by
  intro same
  subst same
  unfold Cursor.Before at before
  omega

theorem StepsTo.before {queue later : DiskQueue} {cursor next : Cursor} {step : ReadStep}
    (steps : StepsTo queue cursor step later) (target : step.target = some next) : cursor.Before next := by
  cases step with
  | record payload following =>
    cases target
    obtain ⟨-, rfl, -⟩ := steps.of_record
    right
    apply And.intro rfl
    change cursor.offset < cursor.offset + 8 + payload.length
    omega
  | move following =>
    cases target
    exact Or.inl steps.move_lt
  | empty => cases target

/-- A loop that has read or moved ends at a later cursor. -/
theorem ReadRun.before {maxItems : Nat} {cursor finalCursor : Cursor} {commit : Bool} {batch : List Bytes}
    {session later : Session} {calls : List ReadCall} {read : PendingBatch}
    {result : EStateM.Result Halt Session PendingBatch}
    (run : ReadRun maxItems cursor finalCursor commit batch session calls result) (ended : result = .ok read later)
    (same : finalCursor = cursor) :
    read = ⟨batch, cursor, commit⟩ ∨ cursor.Before read.nextCursor := by
  induction run with
  | full enough =>
    cases ended
    rw [same]
    exact Or.inl rfl
  | record wanted step rest ih =>
    right
    have first := (StepsTo.of_returned step).before rfl
    rcases ih ended rfl with rfl | onward
    · exact first
    · exact first.trans onward
  | move wanted step rest ih =>
    right
    have first := (StepsTo.of_returned step).before rfl
    rcases ih ended rfl with rfl | onward
    · exact first
    · exact first.trans onward
  | empty wanted step =>
    cases ended
    rw [same]
    exact Or.inl rfl
  | failed wanted step => cases ended

/-- A batch that is committed at all moves the cursor on. -/
theorem readBatch_before {maxItems : Nat} {session later : Session} {batch : PendingBatch}
    (read : readBatch maxItems session = .ok batch later)
    (moves : batch.payloads.length > 0 ∨ batch.shouldCommit) : session.queue.cursor.Before batch.nextCursor := by
  obtain ⟨calls, run⟩ := readBatch_runs maxItems session
  rw [read] at run
  cases run with
  | looped fits run =>
    rcases run.before rfl rfl with rfl | before
    · simp at moves
    · exact before

/-- Every cursor a step goes on to can be written to the cursor file and read back. -/
theorem StepsTo.parsed {queue later : DiskQueue} {cursor : Cursor} {step : ReadStep}
    (steps : StepsTo queue cursor step later) (parsed : queue.dir.Parsed) :
    later.dir.Parsed ∧ ∀ next, step.target = some next → next.segmentId ≤ u64Max ∧ next.offset ≤ u64Max := by
  have above : ∀ id next, (moveOrEmpty ((queue.dir.segments.above id).head?.map
      (fun entry => ⟨entry.1, 0⟩))).target = some next → next.segmentId ≤ u64Max ∧ next.offset ≤ u64Max := by
    intro id next target
    cases listing : queue.dir.segments.above id with
    | nil => simp [listing, moveOrEmpty, ReadStep.target] at target
    | cons head rest =>
      rw [listing] at target
      cases target
      apply And.intro _ (Nat.zero_le _)
      apply parsed
      exact List.mem_map_of_mem (List.mem_of_mem_filter (listing ▸ List.mem_cons_self))
  have aside : ∀ {id suffix file reason}, queue.dir.segments.find? id = some file →
      (queue.setAside id suffix file reason).dir.Parsed := by
    intro id suffix file reason found other listed
    rw [setAside_segments found] at listed
    exact parsed other ((OrderedMap.mem_keys_erase _ _ _).mp listed).2
  cases steps with
  | missing absent => exact ⟨parsed, above _⟩
  | record file payload found whole =>
    apply And.intro parsed
    intro next target
    cases target
    have listed := (queue.dir.segments.mem_keys_iff cursor.segmentId).mpr (by rw [found]; rfl)
    exact ⟨parsed _ listed, (record_fits whole).trans (len_le_u64Max file)⟩
  | finished =>
    apply And.intro parsed
    intro next target
    cases target
  | leave => exact ⟨parsed, above _⟩
  | quarantine file suffix reason found => exact ⟨aside found, above _⟩
  | replace file suffix reason found refused free active room =>
    constructor
    · intro id listed
      rcases (OrderedMap.mem_keys_insert _ _ _ _).mp listed with rfl | listed
      · exact room
      · exact aside found id listed
    · intro next target
      cases target
      exact ⟨room, Nat.zero_le _⟩

theorem DiskQueue.committed_parsed {queue : DiskQueue} (parsed : queue.dir.Parsed) (cursor : Cursor) :
    (queue.committed cursor).dir.Parsed := by
  intro id listed
  obtain ⟨entry, member, rfl⟩ := List.mem_map.mp listed
  exact parsed _ (List.mem_map_of_mem (List.mem_of_mem_filter member))

theorem DiskQueue.agrees_committed (queue : DiskQueue) {cursor : Cursor} (id : cursor.segmentId ≤ u64Max)
    (offset : cursor.offset ≤ u64Max) : (queue.committed cursor).Agrees :=
  parseCursor_cursorText id offset

/-! ### Draining -/

section Draining

variable {σ : Type} {sink : Sink σ Bytes} {maxItems : Nat}

/-- A turn of `drain` that is over: what it read is delivered and the cursor is committed. -/
inductive DrainTurn (sink : Sink σ Bytes) : σ × Session → σ × Session → Prop where
  | record {captured after session payload next later last}
      (read : readStepAt session.queue.cursor session = .ok (.record payload next) later)
      (offered : sink captured payload = (.ok (), after)) (moved : commitCursor next later = .ok () last) :
      DrainTurn sink (captured, session) (after, last)
  | move {captured session next later last}
      (read : readStepAt session.queue.cursor session = .ok (.move next) later)
      (moved : commitCursor next later = .ok () last) : DrainTurn sink (captured, session) (captured, last)

/-- The turn ends in the `read_step_at` of the queue's cursor. -/
def FailsReading (turn later : Session) (halt : Halt) : Prop :=
  readStepAt turn.queue.cursor turn = .error halt later

/-- The turn ends in the commit of `next`. -/
def FailsCommitting (turn : Session) (next : Cursor) (later : Session) (halt : Halt) : Prop :=
  ∃ step middle, readStepAt turn.queue.cursor turn = .ok step middle ∧ step.target = some next ∧
    commitCursor next middle = .error halt later

theorem DrainRun.ends_in {drained : Nat} {captured : σ} {session later : Session} {calls : List ReadCall}
    {result : EStateM.Result Halt Session (Except DiskQueueError Nat × σ)} {halt : Halt}
    (run : DrainRun sink maxItems drained captured session calls result) (ended : result = .error halt later) :
    ∃ turn, Relation.ReflTransGen (DrainTurn sink) (captured, session) turn ∧
      (FailsReading turn.2 later halt ∨ ∃ next, FailsCommitting turn.2 next later halt) := by
  induction run with
  | full enough => cases ended
  | record wanted read offered moved rest ih =>
    obtain ⟨turn, reached, fails⟩ := ih ended
    exact ⟨turn, .head (.record read offered moved) reached, fails⟩
  | refused wanted read offered => cases ended
  | uncommitted wanted read offered moved =>
    cases ended
    exact ⟨_, .refl, Or.inr ⟨_, _, _, read, rfl, moved⟩⟩
  | move wanted read moved rest ih =>
    obtain ⟨turn, reached, fails⟩ := ih ended
    exact ⟨turn, .head (.move read moved) reached, fails⟩
  | unmoved wanted read moved =>
    cases ended
    exact ⟨_, .refl, Or.inr ⟨_, _, _, read, rfl, moved⟩⟩
  | empty wanted read => cases ended
  | failed wanted read =>
    cases ended
    exact ⟨_, .refl, Or.inl read⟩

theorem DrainTurn.step {turn next : σ × Session} (taken : DrainTurn sink turn next) (parsed : turn.2.queue.dir.Parsed) :
    next.2.queue.dir.Parsed ∧ next.2.queue.Agrees := by
  have settled : ∀ {step target middle last}, readStepAt turn.2.queue.cursor turn.2 = .ok step middle →
      step.target = some target → commitCursor target middle = .ok () last →
      last.queue.dir.Parsed ∧ last.queue.Agrees := by
    intro step target middle last read going moved
    obtain ⟨kept, bounds⟩ := (StepsTo.of_returned read).parsed parsed
    obtain ⟨id, offset⟩ := bounds target going
    rw [queue_committed moved]
    exact ⟨DiskQueue.committed_parsed kept target, middle.queue.agrees_committed id offset⟩
  cases taken with
  | record read offered moved => exact settled read rfl moved
  | move read moved => exact settled read rfl moved

/-- Between two turns the cursors agree, unless none is over yet. -/
theorem agrees_of_turns {start turn : σ × Session} (reached : Relation.ReflTransGen (DrainTurn sink) start turn)
    (parsed : start.2.queue.dir.Parsed) :
    turn.2.queue.dir.Parsed ∧ (turn = start ∨ turn.2.queue.Agrees) := by
  induction reached with
  | refl => exact ⟨parsed, Or.inl rfl⟩
  | tail before taken ih =>
    obtain ⟨kept, agrees⟩ := taken.step ih.1
    exact ⟨kept, Or.inr agrees⟩

theorem agrees_of_failsReading {turn later : Session} {halt : Halt} (fails : FailsReading turn later halt) :
    later.queue.Agrees ↔ turn.queue.Agrees := by
  have marked : later.queue.Marked turn.queue.cursor turn.queue.dir.cursor :=
    (readStepAt_retains (reads_marked _ _) turn.queue.cursor).of_error fails ⟨rfl, rfl⟩
  rw [DiskQueue.Agrees, readCursor_congr marked.2, marked.1]
  rfl

theorem agrees_of_failsCommitting {turn later : Session} {next : Cursor} {halt : Halt}
    (fails : FailsCommitting turn next later halt) :
    (later.queue.Agrees ↔ readCursor turn.queue.dir = some next) ∧ turn.queue.cursor.Before next := by
  obtain ⟨step, middle, read, target, failed⟩ := fails
  have steps := StepsTo.of_returned read
  have marked : middle.queue.Marked turn.queue.cursor turn.queue.dir.cursor :=
    steps.keeps (reads_marked _ _) ⟨rfl, rfl⟩
  rw [agrees_of_failed failed, readCursor_congr marked.2]
  exact ⟨Iff.rfl, steps.before target⟩

end Draining

/-! ### Every failed commit -/

/-- A `drain` that fails has come to a turn whose cursors agree, or is in its first one. Failing in a
`read_step_at` it puts nothing out of step; failing in a commit it does unless the cursor file held
the cursor to commit before. -/
def DrainLeaves {σ : Type} (sink : Sink σ Bytes) (captured : σ) (session later : Session) (halt : Halt) : Prop :=
  ∃ turn, Relation.ReflTransGen (DrainTurn sink) (captured, session) turn ∧
    (turn = (captured, session) ∨ turn.2.queue.Agrees) ∧
    (FailsReading turn.2 later halt ∧ (LeftInStep session later ↔ turn.2.queue.Agrees) ∨
      ∃ next, FailsCommitting turn.2 next later halt ∧
        (LeftInStep session later ↔ readCursor turn.2.queue.dir = some next) ∧
        (turn.2.queue.Agrees → ¬ LeftInStep session later))

/-- After a `commit_batch` that fails the queue is in step exactly where the cursor file held the
cursor to commit before, which it does not for a batch read from a queue whose cursors agree. The
same is true of the commits in a `drain`. -/
theorem failed_commit_in_step_iff {σ : Type} (sink : Sink σ Bytes) (maxItems : Nat) (captured : σ)
    (batch : PendingBatch) (session later : Session) (error : DiskQueueError) :
    (commitBatch batch session = .error (.raised error) later →
      (LeftInStep session later ↔ readCursor session.queue.dir = some batch.nextCursor) ∧
      ∀ earlier, earlier.queue.Agrees → readBatch maxItems earlier = .ok batch session →
        ¬ LeftInStep session later) ∧
    (session.queue.dir.Parsed → drain maxItems sink captured session = .error (.raised error) later →
      DrainLeaves sink captured session later (.raised error)) := by
  constructor
  · intro failed
    obtain ⟨moves, commit⟩ := commitBatch_failed failed
    rw [leftInStep_iff_agrees (commitBatch_retains commits_exact batch) failed, agrees_of_failed commit]
    apply And.intro Iff.rfl
    intro earlier agrees read persisted
    have marked : session.queue.Marked earlier.queue.cursor earlier.queue.dir.cursor :=
      (readBatch_retains (reads_marked _ _) maxItems).of_ok read ⟨rfl, rfl⟩
    rw [readCursor_congr marked.2, show readCursor earlier.queue.dir = _ from agrees] at persisted
    exact (readBatch_before read moves).ne (Option.some.inj persisted)
  · intro parsed failed
    have exact := drain_retains reads_exact commits_exact maxItems sink captured
    obtain ⟨calls, run⟩ := drain_runs sink maxItems captured session
    obtain ⟨turn, reached, fails⟩ := run.ends_in failed
    apply Exists.intro turn
    apply And.intro reached
    apply And.intro (agrees_of_turns reached parsed).2
    rw [leftInStep_iff_agrees exact failed]
    rcases fails with reading | ⟨next, committing⟩
    · exact Or.inl ⟨reading, agrees_of_failsReading reading⟩
    · obtain ⟨left, before⟩ := agrees_of_failsCommitting committing
      refine Or.inr ⟨next, committing, left, ?_⟩
      intro agrees persisted
      rw [left, show readCursor turn.2.queue.dir = _ from agrees] at persisted
      exact before.ne (Option.some.inj persisted)

/-- A queue with one record of one byte, behind which the cursor is at 9. -/
def oneRecordQueue : DiskQueue :=
  match enqueue [7] ⟨DiskQueue.openDir (.fresh "queue") ⟨100, false⟩, []⟩ with
  | .ok _ later => later.queue
  | .error _ later => later.queue

def oneRecordBatch : PendingBatch := ⟨[[7]], ⟨1, 9⟩, false⟩

/-- The queue after a commit that has written nothing into `cursor.tmp`. -/
def uncommittedQueue : DiskQueue :=
  { oneRecordQueue with cursor := ⟨1, 9⟩, dir := { oneRecordQueue.dir with cursorTmp := some [] } }

theorem oneRecordQueue_read :
    readBatch 1 ⟨oneRecordQueue, [none, none, none, none, none, some (.error 0)]⟩ =
      .ok oneRecordBatch ⟨oneRecordQueue, [none, some (.error 0)]⟩ := by decide +kernel

theorem oneRecordQueue_uncommitted :
    commitBatch oneRecordBatch ⟨oneRecordQueue, [none, some (.error 0)]⟩ =
      .error (.raised .io) ⟨uncommittedQueue, []⟩ := by decide +kernel

/-- The write of `cursor.tmp` fails: the process goes on behind the record, the next one before it. -/
theorem failed_commit_out_of_step :
    ¬ ∀ (maxItems : Nat) (batch : PendingBatch) (earlier session later : Session) (error : DiskQueueError),
      earlier.queue.Agrees → earlier.queue.Exact → readBatch maxItems earlier = .ok batch session →
      commitBatch batch session = .error (.raised error) later → LeftInStep session later := by
  intro inStep
  have agrees : oneRecordQueue.Agrees := by
    unfold DiskQueue.Agrees
    decide +kernel
  have exact : oneRecordQueue.Exact := by
    refine ⟨⟨?_, Nat.zero_le _⟩, ?_⟩
    · decide +kernel
    · decide +kernel
  have left := inStep 1 _ ⟨oneRecordQueue, [none, none, none, none, none, some (.error 0)]⟩ _ _ _ agrees exact
    oneRecordQueue_read oneRecordQueue_uncommitted
  have same : readCursor uncommittedQueue.dir = some uncommittedQueue.cursor := left.1
  exact absurd same (by decide +kernel)

/-- The same write in a `drain`, and in a `commit_batch` of what has been committed before. -/
theorem failed_commit_in_step_oneRecord :
    ¬ LeftInStep ⟨oneRecordQueue, [none, some (.error 0)]⟩ ⟨uncommittedQueue, []⟩ ∧
    LeftInStep ⟨oneRecordQueue.committed ⟨1, 9⟩, [some (.error 0)]⟩ ⟨oneRecordQueue.committed ⟨1, 9⟩, []⟩ ∧
    DrainLeaves (fun captured _ => (.ok (), captured)) ()
      ⟨oneRecordQueue, [none, none, none, none, none, some (.error 0)]⟩ ⟨uncommittedQueue, []⟩ (.raised .io) := by
  have agrees : oneRecordQueue.Agrees := by
    unfold DiskQueue.Agrees
    decide +kernel
  have again : commitBatch oneRecordBatch ⟨oneRecordQueue.committed ⟨1, 9⟩, [some (.error 0)]⟩ =
      .error (.raised .io) ⟨oneRecordQueue.committed ⟨1, 9⟩, []⟩ := by decide +kernel
  have drained : drain 1 (fun captured _ => (.ok (), captured)) ()
      ⟨oneRecordQueue, [none, none, none, none, none, some (.error 0)]⟩ =
        .error (.raised .io) ⟨uncommittedQueue, []⟩ := by decide +kernel
  have parsed : oneRecordQueue.dir.Parsed := by
    unfold Directory.Parsed
    decide +kernel
  refine ⟨?_, ?_, ?_⟩
  · exact ((failed_commit_in_step_iff (fun captured _ => (.ok (), captured)) 1 () _ _ _ _).1
      oneRecordQueue_uncommitted).2 ⟨oneRecordQueue, [none, none, none, none, none, some (.error 0)]⟩
      agrees oneRecordQueue_read
  · exact ((failed_commit_in_step_iff (fun captured _ => (.ok (), captured)) 1 () _ _ _ _).1 again).1.mpr
      (by decide +kernel)
  · exact (failed_commit_in_step_iff _ 1 () oneRecordBatch _ _ _).2 parsed drained

end TelemetryFabric.Buffer
