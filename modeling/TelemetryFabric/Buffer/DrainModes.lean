import TelemetryFabric.Buffer.Ending

/-!
The two ways to drain. `drain` commits behind every record and every move, `drain_batch` reads
ahead and commits once. A commit takes away only what is before the cursor, and reading looks only
at what is not, so that the two are the same run with the commits in other places.
-/

namespace TelemetryFabric.Buffer
open Library

/-! ### Reading behind a commit -/

theorem sum_below {first second : Nat} (bound : first ≤ second) (weight : SegmentFile → Nat)
    (entries : List (Nat × SegmentFile)) :
    ((entries.filter (fun entry => entry.1 < first)).map (fun entry => weight entry.2)).sum +
      (((entries.filter (fun entry => first ≤ entry.1)).filter (fun entry => entry.1 < second)).map
        (fun entry => weight entry.2)).sum =
    ((entries.filter (fun entry => entry.1 < second)).map (fun entry => weight entry.2)).sum := by
  induction entries with
  | nil => rfl
  | cons head rest ih =>
    by_cases early : head.1 < first
    · have before : head.1 < second := by omega
      simp only [List.filter_cons, early, before, not_le.mpr early, decide_true, decide_false, if_true,
        Bool.false_eq_true, if_false, List.map_cons, List.sum_cons]
      omega
    · by_cases before : head.1 < second
      · simp only [List.filter_cons, early, before, not_lt.mp early, decide_true, decide_false, if_true,
          Bool.false_eq_true, if_false, List.map_cons, List.sum_cons]
        omega
      · simp only [List.filter_cons, early, before, not_lt.mp early, decide_true, decide_false, if_true,
          Bool.false_eq_true, if_false]
        omega

/-- Queues that differ in nothing but the segments and the counter, and not in these. -/
theorem DiskQueue.ext_files {first second : DiskQueue} (segments : first.dir.segments = second.dir.segments)
    (queued : first.queuedBytes = second.queuedBytes)
    (others : { first with dir := { first.dir with segments := .empty }, queuedBytes := 0 } =
      { second with dir := { second.dir with segments := .empty }, queuedBytes := 0 }) : first = second := by
  rcases first with ⟨⟨_, _, _, _, _, _⟩, _, _, _, _, _⟩
  rcases second with ⟨⟨_, _, _, _, _, _⟩, _, _, _, _, _⟩
  simp only [DiskQueue.mk.injEq, Directory.mk.injEq] at segments queued others ⊢
  exact ⟨⟨others.1.1, segments, others.1.2.2⟩, others.2.1, others.2.2.1, others.2.2.2.1, queued, others.2.2.2.2.2⟩

theorem find?_committed_eq (queue : DiskQueue) (cursor : Cursor) (id : Nat) :
    (queue.committed cursor).dir.segments.find? id =
      if cursor.segmentId ≤ id then queue.dir.segments.find? id else none := by
  split_ifs with bound
  · exact find?_committed queue bound
  · rw [OrderedMap.find?_eq_none_iff]
    intro listed
    obtain ⟨entry, member, rfl⟩ := List.mem_map.mp listed
    exact bound (by simpa using (List.mem_filter.mp member).2)

/-- A later commit does all that an earlier one did. -/
theorem committed_committed (queue : DiskQueue) {first second : Cursor} (bound : first.segmentId ≤ second.segmentId) :
    (queue.committed first).committed second = queue.committed second := by
  apply DiskQueue.ext_files
  · apply OrderedMap.ext_find?
    intro id
    rw [find?_committed_eq, find?_committed_eq, find?_committed_eq]
    split_ifs with late early
    · rfl
    · omega
    · rfl
  · have sums := sum_below bound SegmentFile.len queue.dir.segments.entries
    change queue.queuedBytes - _ - _ = queue.queuedBytes - _
    rw [Nat.sub_sub]
    exact congrArg (queue.queuedBytes - ·) sums
  · rfl

variable {queue : DiskQueue} {cursor : Cursor}

theorem setAside_committed {id suffix : Nat} {file : SegmentFile} (reason : String) (bound : cursor.segmentId ≤ id)
    (found : queue.dir.segments.find? id = some file) :
    (queue.committed cursor).setAside id suffix file reason = (queue.setAside id suffix file reason).committed cursor := by
  have still := (find?_committed queue bound).trans found
  apply DiskQueue.ext_files
  · apply OrderedMap.ext_find?
    intro other
    rw [setAside_segments still, find?_committed_eq, setAside_segments found, OrderedMap.find?_erase,
      OrderedMap.find?_erase, find?_committed_eq]
    split_ifs <;> rfl
  · change queue.queuedBytes - _ - file.len = queue.queuedBytes - file.len - _
    rw [setAside_segments found, OrderedMap.below_erase _ bound, Nat.sub_right_comm]
  · simp only [DiskQueue.setAside, Directory.renameCorrupt, still, found]
    rfl

theorem startSegment_committed {id : Nat} (bound : cursor.segmentId ≤ id) :
    (queue.committed cursor).startSegment id = (queue.startSegment id).committed cursor := by
  apply DiskQueue.ext_files
  · apply OrderedMap.ext_find?
    intro other
    rw [find?_committed_eq]
    change (((queue.committed cursor).dir.segments.insert id .empty).find? other) =
      if cursor.segmentId ≤ other then (queue.dir.segments.insert id .empty).find? other else none
    rw [OrderedMap.find?_insert, OrderedMap.find?_insert, find?_committed_eq]
    split_ifs with same
    · rfl
    · omega
    · rfl
    · rfl
  · change queue.queuedBytes - _ = queue.queuedBytes - (((queue.dir.segments.insert id .empty).below _).map _).sum
    rw [OrderedMap.below_insert _ bound]
  · rfl

/-- The same result with a change to the queue that is left. -/
def withQueue {α : Type} (change : DiskQueue → DiskQueue) :
    EStateM.Result Halt Session α → EStateM.Result Halt Session α
  | .ok value later => .ok value ⟨change later.queue, later.plan⟩
  | .error halt later => .error halt ⟨change later.queue, later.plan⟩

theorem quarantineAndAdvance_committed {id : Nat} {file : SegmentFile} (reason : String)
    (bound : cursor.segmentId ≤ id) (found : queue.dir.segments.find? id = some file) :
    quarantineAndAdvance id reason ⟨queue.committed cursor, []⟩ =
      withQueue (·.committed cursor) (quarantineAndAdvance id reason ⟨queue, []⟩) := by
  have still := (find?_committed queue bound).trans found
  cases free : corruptSegmentSuffix queue.dir id with
  | none =>
    have stillFree : corruptSegmentSuffix (queue.committed cursor).dir id = none := free
    simp only [quarantineAndAdvance, bind_apply, quarantineSegment_calm_taken reason found free,
      quarantineSegment_calm_taken reason still stillFree, withQueue]
    rfl
  | some suffix =>
    have stillFree : corruptSegmentSuffix (queue.committed cursor).dir id = some suffix := free
    have active : ((queue.setAside id suffix file reason).committed cursor).activeSegmentId =
        (queue.setAside id suffix file reason).activeSegmentId := rfl
    simp only [quarantineAndAdvance, bind_apply, quarantineSegment_calm reason found free,
      quarantineSegment_calm reason still stillFree, setAside_committed reason bound found, getQueue_apply, active]
    split_ifs with last room
    · have started : ∀ aside : DiskQueue, (do
          modifyQueue fun queue => { queue with activeSegmentId := id + 1, activeSegmentBytes := 0 }
          call (·.createSegment (id + 1))
          return ReadStep.move ⟨id + 1, 0⟩ : QueueM ReadStep) ⟨aside, []⟩ =
            .ok (.move ⟨id + 1, 0⟩) ⟨aside.startSegment (id + 1), []⟩ := fun aside => rfl
      rw [started, started, startSegment_committed (bound.trans (Nat.le_succ id))]
      rfl
    · rfl
    · simp only [bind_apply, nextCursorAfter_calm, pure_apply, above_committed _ bound, withQueue]

/-- A commit at or before the cursor changes nothing a `read_step_at` looks at. -/
theorem readStepAt_committed {next : Cursor} (bound : cursor.segmentId ≤ next.segmentId) :
    readStepAt next ⟨queue.committed cursor, []⟩ =
      withQueue (·.committed cursor) (readStepAt next ⟨queue, []⟩) := by
  have active : (queue.committed cursor).activeSegmentId = queue.activeSegmentId := rfl
  cases found : queue.dir.segments.find? next.segmentId with
  | none =>
    have still := (find?_committed queue bound).trans found
    simp only [readStepAt, bind_apply, getQueue_apply, found, still, nextCursorAfter_calm, pure_apply,
      above_committed _ bound, withQueue]
  | some file =>
    have still := (find?_committed queue bound).trans found
    cases parsed : parseRecord (file.bytes.drop next.offset) with
    | endOfFile =>
      simp only [readStepAt, bind_apply, getQueue_apply, found, still, probe_calm, parsed, active]
      split_ifs
      · simp only [bind_apply, nextCursorAfter_calm, pure_apply, above_committed _ bound, withQueue]
      · rfl
    | record payload =>
      simp only [readStepAt, bind_apply, getQueue_apply, found, still, probe_calm, parsed, pure_apply, withQueue]
    | truncated =>
      simp only [readStepAt, bind_apply, getQueue_apply, found, still, probe_calm, parsed]
      exact quarantineAndAdvance_committed _ bound found
    | mismatch =>
      simp only [readStepAt, bind_apply, getQueue_apply, found, still, probe_calm, parsed]
      exact quarantineAndAdvance_committed _ bound found

/-! ### The two loops in step -/

theorem readStepAt_afterCommit (read : PendingBatch) :
    readStepAt read.nextCursor ⟨queue.afterCommit read, []⟩ =
      withQueue (·.afterCommit read) (readStepAt read.nextCursor ⟨queue, []⟩) := by
  unfold DiskQueue.afterCommit
  split_ifs
  · exact readStepAt_committed le_rfl
  · cases readStepAt read.nextCursor ⟨queue, []⟩ <;> rfl

theorem afterCommit_committed (read : PendingBatch) {next : Cursor}
    (bound : read.nextCursor.segmentId ≤ next.segmentId) :
    (queue.afterCommit read).committed next = queue.committed next := by
  unfold DiskQueue.afterCommit
  split_ifs
  · exact committed_committed queue bound
  · rfl

theorem cursor_afterCommit {read : PendingBatch}
    (still : read.payloads = [] → read.shouldCommit = false → read.nextCursor = queue.cursor) :
    (queue.afterCommit read).cursor = read.nextCursor := by
  unfold DiskQueue.afterCommit
  split_ifs with moves
  · rfl
  · obtain ⟨none, idle⟩ := not_or.mp moves
    exact (still (List.length_eq_zero_iff.mp (by omega)) (by simpa using idle)).symm

section Lockstep

variable {σ : Type} (accept : σ → Bytes → σ)

/-- Sinks that always succeed, given the payloads one by one and all at once. -/
def eachSink : Sink σ Bytes := fun captured payload => (.ok (), accept captured payload)

def batchSink : Sink σ (List Bytes) := fun captured payloads => (.ok (), payloads.foldl accept captured)

/-- What `drain` makes of what `read_batch` has done. -/
def Follows (captured : σ) (read : EStateM.Result Halt Session PendingBatch)
    (drained : EStateM.Result Halt Session (Except DiskQueueError Nat × σ)) : Prop :=
  match read with
  | .ok batch later => later.plan = [] ∧
      drained = .ok (.ok batch.payloads.length, batch.payloads.foldl accept captured)
        ⟨later.queue.afterCommit batch, []⟩
  | .error halt later => ∃ sofar, drained = .error halt ⟨later.queue.afterCommit sofar, later.plan⟩

/-- Where `read_batch` has come to `cursor`, `drain` has committed up to it. -/
theorem drainLoop_follows (maxItems fuel : Nat) (captured : σ) (commit : Bool) (batch : List Bytes)
    (still : batch = [] → commit = false → cursor = queue.cursor) :
    Follows accept captured (readLoop maxItems fuel cursor cursor commit batch ⟨queue, []⟩)
      (drainLoop (eachSink accept) maxItems fuel batch.length (batch.foldl accept captured)
        ⟨queue.afterCommit ⟨batch, cursor, commit⟩, []⟩) := by
  induction fuel generalizing queue cursor commit batch with
  | zero => exact ⟨⟨batch, cursor, commit⟩, rfl⟩
  | succ fuel ih =>
    rw [readLoop, drainLoop]
    by_cases wanted : batch.length < maxItems
    · have here : (queue.afterCommit ⟨batch, cursor, commit⟩).cursor = cursor := cursor_afterCommit still
      have alike : readStepAt cursor ⟨queue.afterCommit ⟨batch, cursor, commit⟩, []⟩ =
          withQueue (·.afterCommit ⟨batch, cursor, commit⟩) (readStepAt cursor ⟨queue, []⟩) :=
        readStepAt_afterCommit ⟨batch, cursor, commit⟩
      rw [if_pos wanted, if_pos wanted, bind_apply, bind_apply, getQueue_apply]
      simp only [bind_apply, here]
      rw [alike]
      rcases readStepAt_calm queue cursor with ⟨step, later, ran, steps⟩ | ⟨message, later, failed, stuck⟩
      · rw [ran]
        cases step with
        | record payload next =>
          have bound : cursor.segmentId ≤ next.segmentId := by
            obtain ⟨-, rfl, -⟩ := steps.of_record
            exact le_rfl
          have left : (later.afterCommit ⟨batch, cursor, commit⟩).committed next =
              later.afterCommit ⟨batch ++ [payload], next, commit⟩ := by
            rw [afterCommit_committed _ bound, DiskQueue.afterCommit, if_pos (Or.inl (by simp))]
          have taken := @ih later next commit (batch ++ [payload]) (fun none => absurd none (by simp))
          rw [List.length_append, List.length_singleton, List.foldl_append] at taken
          simp only [withQueue, eachSink, bind_apply, commitCursor_calm, left]
          exact taken
        | move next =>
          have left : (later.afterCommit ⟨batch, cursor, commit⟩).committed next =
              later.afterCommit ⟨batch, next, true⟩ := by
            rw [afterCommit_committed _ steps.move_lt.le, DiskQueue.afterCommit, if_pos (Or.inr rfl)]
          have moved := @ih later next true batch (fun _ idle => absurd idle (by simp))
          simp only [withQueue, bind_apply, commitCursor_calm, left]
          exact moved
        | empty => exact ⟨rfl, rfl⟩
      · rw [failed]
        exact ⟨⟨batch, cursor, commit⟩, rfl⟩
    · rw [if_neg wanted, if_neg wanted]
      exact ⟨rfl, rfl⟩

theorem drain_follows {maxItems : Nat} (fits : maxItems ≤ maxBatchItems) (captured : σ) (queue : DiskQueue) :
    Follows accept captured (readBatch maxItems ⟨queue, []⟩) (drain maxItems (eachSink accept) captured ⟨queue, []⟩) := by
  unfold drain
  rw [bind_apply, getQueue_apply]
  by_cases nothing : maxItems = 0
  · rw [nothing, readBatch_zero]
    exact ⟨rfl, rfl⟩
  · rw [readBatch_fits nothing fits]
    exact drainLoop_follows accept maxItems _ captured false [] (fun _ _ => rfl)

/-- With a sink that always succeeds, whatever `drain_batch` returns `drain` returns, with the same
payloads offered and the same queue left. Where `drain_batch` fails it has offered and committed
nothing; `drain` fails in the same way, and has committed some of what it read. Only `drain_batch`
can panic, and then it has done nothing. -/
theorem drain_modes_agree (maxItems : Nat) (captured : σ) (queue : DiskQueue) :
    match drainBatch maxItems (batchSink accept) captured ⟨queue, []⟩ with
    | .ok result later => drain maxItems (eachSink accept) captured ⟨queue, []⟩ = .ok result later
    | .error halt later =>
        maxBatchItems < maxItems ∧ halt = .panicked ∧ later = ⟨queue, []⟩ ∨
        maxItems ≤ maxBatchItems ∧ later.queue.Marked queue.cursor queue.dir.cursor ∧
          ∃ sofar, drain maxItems (eachSink accept) captured ⟨queue, []⟩ =
            .error halt ⟨later.queue.afterCommit sofar, later.plan⟩ := by
  by_cases fits : maxItems ≤ maxBatchItems
  · have follows := drain_follows accept fits captured queue
    rw [drainBatch, bind_apply]
    cases read : readBatch maxItems ⟨queue, []⟩ with
    | ok batch later =>
      rw [read] at follows
      obtain ⟨calm, drained⟩ := follows
      cases later with
      | mk left plan =>
        cases calm
        by_cases nothing : batch.payloads.isEmpty
        · have none := List.isEmpty_iff.mp nothing
          simp only [if_pos nothing, bind_apply, commitBatch_eq, pure_apply]
          rw [drained, none]
          rfl
        · simp only [if_neg nothing, batchSink, bind_apply, commitBatch_eq, pure_apply]
          exact drained
    | error halt later =>
      rw [read] at follows
      exact Or.inr ⟨fits, (readBatch_retains (reads_marked _ _) maxItems).of_error read ⟨rfl, rfl⟩, follows⟩
  · rw [drainBatch_panics (Nat.not_le.mp fits)]
    exact Or.inl ⟨Nat.not_le.mp fits, rfl, rfl⟩

end Lockstep

/-- A record in the first segment, and one without its payload in the last segment there can be. -/
def spoiledLastQueue : DiskQueue :=
  let dir := (Directory.fresh "queue").createSegment 1
  let dir := (dir.appendSegment? 1 (frame [7])).getD dir
  let dir := dir.createSegment u64Max
  let dir := (dir.appendSegment? u64Max (littleEndian 8 1)).getD dir
  DiskQueue.openDir dir ⟨100, false⟩

/-- The cursor a program leaves. -/
def cursorLeft {α : Type} : EStateM.Result Halt Session α → Cursor
  | .ok _ later => later.queue.cursor
  | .error _ later => later.queue.cursor

/-- `drain` has delivered the record when it meets the other segment, `drain_batch` has not. -/
theorem drain_modes_differ :
    ¬ ∀ (maxItems : Nat) (queue : DiskQueue),
      drain maxItems (eachSink fun payloads payload => payloads ++ [payload]) [] ⟨queue, []⟩ =
        drainBatch maxItems (batchSink fun payloads payload => payloads ++ [payload]) [] ⟨queue, []⟩ := by
  intro same
  have cursors := congrArg cursorLeft (same 2 spoiledLastQueue)
  exact absurd cursors (by decide +kernel)

end TelemetryFabric.Buffer
