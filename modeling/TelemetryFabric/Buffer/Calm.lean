import TelemetryFabric.Buffer.DiskQueue

/-!
What the queue operations do when every file-system call succeeds: one equation for
each operation, and for `read_step_at` the list of everything one call can do.
-/

namespace TelemetryFabric.Buffer
open Library

/-! ### Sequencing -/

@[simp] theorem bind_apply {α β : Type} (first : QueueM α) (next : α → QueueM β) (session : Session) :
    (first >>= next) session = match first session with
      | .ok value later => next value later
      | .error halt later => .error halt later := by
  change EStateM.bind first next session = _
  unfold EStateM.bind
  cases first session <;> rfl

@[simp] theorem pure_apply {α : Type} (value : α) (session : Session) :
    (pure value : QueueM α) session = .ok value session := rfl

@[simp] theorem raise_apply {α : Type} (error : DiskQueueError) (session : Session) :
    (raise error : QueueM α) session = .error (.raised error) session := rfl

@[simp] theorem throw_apply {α : Type} (halt : Halt) (session : Session) :
    (throw halt : QueueM α) session = .error halt session := rfl

@[simp] theorem getQueue_apply (session : Session) : getQueue session = .ok session.queue session := rfl

@[simp] theorem modifyQueue_apply (change : DiskQueue → DiskQueue) (session : Session) :
    modifyQueue change session = .ok () { session with queue := change session.queue } := rfl

/-! ### File-system calls that succeed -/

@[simp] theorem call_calm (effect : Directory → Directory) (queue : DiskQueue) :
    call effect ⟨queue, []⟩ = .ok () ⟨{ queue with dir := effect queue.dir }, []⟩ := rfl

@[simp] theorem probe_calm (queue : DiskQueue) : probe ⟨queue, []⟩ = .ok () ⟨queue, []⟩ := rfl

theorem write_calm {size : Nat} {effect : Nat → Directory → Option Directory} {queue : DiskQueue}
    {dir : Directory} (fits : effect size queue.dir = some dir) :
    write size effect ⟨queue, []⟩ = .ok () ⟨{ queue with dir := dir }, []⟩ := by
  simp [write, nextFault, fits]

theorem write_calm_full {size : Nat} {effect : Nat → Directory → Option Directory}
    {queue : DiskQueue} (full : effect size queue.dir = none) :
    write size effect ⟨queue, []⟩ = .error (.raised .io) ⟨queue, []⟩ := by
  simp [write, nextFault, full]

/-! ### Moving the cursor -/

/-- The queue after `commit_cursor`: older segments gone, the cursor persisted. -/
def DiskQueue.committed (queue : DiskQueue) (cursor : Cursor) : DiskQueue :=
  { queue with
    cursor := cursor
    queuedBytes := queue.queuedBytes -
      ((queue.dir.segments.below cursor.segmentId).map (fun entry => entry.2.len)).sum
    dir := { queue.dir with
      segments := ⟨queue.dir.segments.since cursor.segmentId, queue.dir.segments.ordered.filter _⟩
      cursor := some (cursorText cursor)
      cursorTmp := none } }

@[simp] theorem segmentIds_calm (queue : DiskQueue) :
    segmentIds ⟨queue, []⟩ = .ok queue.dir.segments.keys ⟨queue, []⟩ := rfl

@[simp] theorem persistCursor_calm (queue : DiskQueue) (cursor : Cursor) :
    persistCursor cursor ⟨queue, []⟩ = .ok () ⟨{ queue with
      dir := { queue.dir with cursor := some (cursorText cursor), cursorTmp := none } }, []⟩ := by
  simp [persistCursor, write, nextFault, Directory.writeCursorTmp, Directory.renameCursorTmp]

/-- The queue without the listed segments, their sizes taken off `queuedBytes`. -/
def DiskQueue.without (queue : DiskQueue) : List Nat → DiskQueue
  | [] => queue
  | id :: rest =>
      match queue.dir.segments.find? id with
      | none => queue.without rest
      | some file =>
          DiskQueue.without { queue with
            dir := queue.dir.removeSegment id
            queuedBytes := queue.queuedBytes - file.len } rest

theorem removeSegments_calm (ids : List Nat) (queue : DiskQueue) :
    removeSegments ids ⟨queue, []⟩ = .ok () ⟨queue.without ids, []⟩ := by
  induction ids generalizing queue with
  | nil => rfl
  | cons id rest ih =>
    cases found : queue.dir.segments.find? id with
    | none => simp [removeSegments, DiskQueue.without, found, ih]
    | some file => simp [removeSegments, DiskQueue.without, found, ih]

/-- Removing a lower part of the listing leaves the upper part. -/
theorem without_prefix (older newer : List (Nat × SegmentFile)) (queue : DiskQueue)
    (listing : queue.dir.segments.entries = older ++ newer) :
    queue.without (older.map Prod.fst) =
      { queue with
        queuedBytes := queue.queuedBytes - (older.map (fun entry => entry.2.len)).sum
        dir := { queue.dir with segments := ⟨newer, by
          have ordered := queue.dir.segments.ordered
          rw [listing] at ordered
          exact (List.pairwise_append.mp ordered).2.1⟩ } } := by
  induction older generalizing queue with
  | nil =>
    have same : queue.dir.segments = ⟨newer, by
        have ordered := queue.dir.segments.ordered
        rw [listing] at ordered
        exact (List.pairwise_append.mp ordered).2.1⟩ := OrderedMap.ext_entries listing
    rw [← same]
    rfl
  | cons entry rest ih =>
    rcases entry with ⟨id, file⟩
    have ordered := queue.dir.segments.ordered
    rw [listing, List.cons_append, List.pairwise_cons] at ordered
    have found : queue.dir.segments.find? id = some file :=
      (queue.dir.segments.find?_eq_some_iff id file).mpr (by simp [listing])
    have remaining : (queue.dir.segments.erase id).entries = rest ++ newer := by
      rw [OrderedMap.erase_entries, listing, List.cons_append,
        List.filter_cons_of_neg (by simp)]
      refine List.filter_eq_self.mpr ?_
      intro other member
      have above := ordered.1 other member
      simpa using above.ne'
    simp only [List.map_cons, DiskQueue.without, found]
    rw [ih _ remaining]
    simp [Directory.removeSegment, Nat.sub_sub]

theorem commitCursor_calm (queue : DiskQueue) (cursor : Cursor) :
    commitCursor cursor ⟨queue, []⟩ = .ok () ⟨queue.committed cursor, []⟩ := by
  have older : queue.dir.segments.keys.filter (· < cursor.segmentId) =
      (queue.dir.segments.below cursor.segmentId).map Prod.fst := by
    simp only [OrderedMap.keys, OrderedMap.below, List.filter_map]
    rfl
  have listing := queue.dir.segments.partition_at cursor.segmentId
  have removed := without_prefix _ _ { queue with cursor := cursor } listing
  simp only [commitCursor, removeSegmentsBefore, bind_apply, modifyQueue_apply, segmentIds_calm]
  rw [older, removeSegments_calm, removed]
  simp [DiskQueue.committed]

theorem commitBatch_calm (queue : DiskQueue) (batch : PendingBatch) :
    commitBatch batch ⟨queue, []⟩ = .ok batch.payloads.length
      ⟨if batch.payloads.length > 0 ∨ batch.shouldCommit then queue.committed batch.nextCursor
        else queue, []⟩ := by
  unfold commitBatch
  split_ifs with moves
  · simp [commitCursor_calm]
  · simp

/-! ### Appending -/

/-- The segment id and counters `enqueue` starts from, after the rotation it may need. -/
def DiskQueue.rotates (queue : DiskQueue) (payload : Bytes) : Prop :=
  queue.activeSegmentBytes > 0 ∧
    queue.activeSegmentBytes + (recordHeaderLen + payload.length) > queue.options.maxSegmentBytes

instance (queue : DiskQueue) (payload : Bytes) : Decidable (queue.rotates payload) :=
  inferInstanceAs (Decidable (_ ∧ _))

/-- The queue with a new, empty active segment. -/
def DiskQueue.startSegment (queue : DiskQueue) (id : Nat) : DiskQueue :=
  { queue with dir := queue.dir.createSegment id, activeSegmentId := id, activeSegmentBytes := 0 }

/-- The queue after a record has reached the active segment file. -/
def DiskQueue.appended (queue : DiskQueue) (payload : Bytes) (file : SegmentFile) : DiskQueue :=
  { queue with
    dir := { queue.dir with segments := queue.dir.segments.insert queue.activeSegmentId file }
    activeSegmentBytes := queue.activeSegmentBytes + (recordHeaderLen + payload.length)
    queuedBytes := queue.queuedBytes + (recordHeaderLen + payload.length) }

def DiskQueue.activeFile (queue : DiskQueue) : SegmentFile :=
  (queue.dir.segments.find? queue.activeSegmentId).getD .empty

theorem rotateSegment_calm (queue : DiskQueue) (room : queue.activeSegmentId < u64Max) :
    rotateSegment ⟨queue, []⟩ = .ok () ⟨queue.startSegment (queue.activeSegmentId + 1), []⟩ := by
  simp [rotateSegment, room, DiskQueue.startSegment]

/-- The three writes of a record: each succeeds when the whole record fits the file. -/
theorem append_frame {file : SegmentFile} {payload : Bytes}
    (fits : file.len + (frame payload).length ≤ maxFileLen) :
    ∃ header summed full : SegmentFile,
      file.append? (littleEndian 4 payload.length) = some header ∧
      header.append? (littleEndian 4 (checksum32 payload).toNat) = some summed ∧
      summed.append? payload = some full ∧ full.bytes = file.bytes ++ frame payload := by
  simp only [SegmentFile.len, length_frame, recordHeaderLen] at fits
  have first : (file.bytes ++ littleEndian 4 payload.length).length ≤ maxFileLen := by
    simp only [List.length_append, length_littleEndian]
    omega
  have second : ((file.bytes ++ littleEndian 4 payload.length) ++
      littleEndian 4 (checksum32 payload).toNat).length ≤ maxFileLen := by
    simp only [List.length_append, length_littleEndian]
    omega
  have third : (((file.bytes ++ littleEndian 4 payload.length) ++
      littleEndian 4 (checksum32 payload).toNat) ++ payload).length ≤ maxFileLen := by
    simp only [List.length_append, length_littleEndian]
    omega
  refine ⟨⟨_, first⟩, ⟨_, second⟩, ⟨_, third⟩, ?_, ?_, ?_, ?_⟩
  · simp only [SegmentFile.append?, dif_pos first]
  · simp only [SegmentFile.append?, dif_pos second]
  · simp only [SegmentFile.append?, dif_pos third]
  · simp [frame]

theorem appendSegment?_of_find {dir : Directory} {id : Nat} {file next : SegmentFile} {more : Bytes}
    (found : dir.segments.find? id = some file) (written : file.append? more = some next) :
    dir.appendSegment? id more = some { dir with segments := dir.segments.insert id next } := by
  simp [Directory.appendSegment?, found, written]

/-- A record that fits the file is written whole. -/
theorem appendRecord_calm (queue : DiskQueue) (id : Nat) (payload : Bytes)
    (fits : ((queue.dir.segments.find? id).getD .empty).len + (frame payload).length ≤ maxFileLen) :
    ∃ full : SegmentFile,
      full.bytes = ((queue.dir.segments.find? id).getD .empty).bytes ++ frame payload ∧
      appendRecord id payload ⟨queue, []⟩ = .ok () ⟨{ queue with
        dir := { queue.dir with segments := queue.dir.segments.insert id full } }, []⟩ := by
  obtain ⟨header, summed, full, first, second, third, bytes⟩ := append_frame fits
  refine ⟨full, bytes, ?_⟩
  unfold appendRecord
  simp only [bind_apply, call_calm]
  rw [write_calm (appendSegment?_of_find (OrderedMap.find?_insert_self _ _ _) 
    (by rw [List.take_length]; exact first))]
  simp only
  rw [write_calm (appendSegment?_of_find (OrderedMap.find?_insert_self _ _ _) 
    (by rw [List.take_length]; exact second))]
  simp only
  rw [write_calm (appendSegment?_of_find (OrderedMap.find?_insert_self _ _ _) 
    (by rw [List.take_length]; exact third))]
  -- opening the file and then appending to it is one append
  simp only [Directory.openSegment, OrderedMap.insert_insert]

theorem appendSegment?_full {dir : Directory} {id : Nat} {file : SegmentFile} {more : Bytes}
    (found : dir.segments.find? id = some file) (full : file.append? more = none) :
    dir.appendSegment? id more = none := by
  simp [Directory.appendSegment?, found, full]

/-- A record that does not fit the file ends in an I/O error. -/
theorem appendRecord_calm_full (queue : DiskQueue) (id : Nat) (payload : Bytes)
    (full : ¬ ((queue.dir.segments.find? id).getD .empty).len + (frame payload).length ≤ maxFileLen) :
    ∃ later, appendRecord id payload ⟨queue, []⟩ = .error (.raised .io) later := by
  unfold appendRecord
  simp only [bind_apply, call_calm]
  cases first : ((queue.dir.segments.find? id).getD .empty).append?
      (littleEndian 4 payload.length) with
  | none =>
    rw [write_calm_full (appendSegment?_full (OrderedMap.find?_insert_self _ _ _)
      (by rw [List.take_length]; exact first))]
    exact ⟨_, rfl⟩
  | some header =>
    rw [write_calm (appendSegment?_of_find (OrderedMap.find?_insert_self _ _ _)
      (by rw [List.take_length]; exact first))]
    simp only
    cases second : header.append? (littleEndian 4 (checksum32 payload).toNat) with
    | none =>
      rw [write_calm_full (appendSegment?_full (OrderedMap.find?_insert_self _ _ _)
        (by rw [List.take_length]; exact second))]
      exact ⟨_, rfl⟩
    | some summed =>
      rw [write_calm (appendSegment?_of_find (OrderedMap.find?_insert_self _ _ _)
        (by rw [List.take_length]; exact second))]
      simp only
      cases third : summed.append? payload with
      | none =>
        rw [write_calm_full (appendSegment?_full (OrderedMap.find?_insert_self _ _ _)
          (by rw [List.take_length]; exact third))]
        exact ⟨_, rfl⟩
      | some whole =>
        have size := whole.fits
        rw [SegmentFile.append?_eq_some third, SegmentFile.append?_eq_some second,
          SegmentFile.append?_eq_some first] at size
        refine absurd ?_ full
        simpa [SegmentFile.len, frame, recordHeaderLen, Nat.add_assoc] using size

/-- The queue `enqueue` appends to: the same one, or one with a fresh active segment. -/
def DiskQueue.rotated (queue : DiskQueue) (payload : Bytes) : DiskQueue :=
  if queue.rotates payload then queue.startSegment (queue.activeSegmentId + 1) else queue

/-- What `enqueue` does behind the rotation. -/
def storeRecord (fsyncOnWrite : Bool) (payload : Bytes) : QueueM Unit := do
  appendRecord (← getQueue).activeSegmentId payload
  if fsyncOnWrite then probe
  modifyQueue fun queue => { queue with
    activeSegmentBytes := queue.activeSegmentBytes + (recordHeaderLen + payload.length)
    queuedBytes := queue.queuedBytes + (recordHeaderLen + payload.length) }

theorem enqueue_large {payload : Bytes} (large : ¬ payload.length ≤ u32Max) (session : Session) :
    enqueue payload session = .error (.raised (.payloadTooLarge payload.length)) session := by
  unfold enqueue storageBytesForPayload
  rw [if_pos (not_le.mp large)]
  rfl

/-- The two ways through `enqueue`, under any plan. -/
theorem enqueue_small {payload : Bytes} (small : payload.length ≤ u32Max) (session : Session) :
    enqueue payload session =
      if session.queue.rotates payload then
        (do rotateSegment; storeRecord session.queue.options.fsyncOnWrite payload : QueueM Unit) session
      else storeRecord session.queue.options.fsyncOnWrite payload session := by
  have storage : storageBytesForPayload payload.length = .ok (recordHeaderLen + payload.length) := by
    unfold storageBytesForPayload
    rw [if_neg (not_lt.mpr small)]
  unfold enqueue
  rw [storage]
  simp only [bind_apply, getQueue_apply]
  by_cases rotates : session.queue.rotates payload
  · rw [if_pos rotates, if_pos (show _ ∧ _ from rotates), bind_apply]
    rfl
  · rw [if_neg rotates, if_neg (show ¬ (_ ∧ _) from rotates)]
    rfl

/-- When the segment counter allows it, `enqueue` goes on from the queue with the segment
the record belongs to. -/
theorem enqueue_rotated {queue : DiskQueue} {payload : Bytes} (small : payload.length ≤ u32Max)
    (room : queue.rotates payload → queue.activeSegmentId < u64Max) :
    enqueue payload ⟨queue, []⟩ =
      storeRecord queue.options.fsyncOnWrite payload ⟨queue.rotated payload, []⟩ := by
  rw [enqueue_small small, DiskQueue.rotated]
  by_cases rotates : queue.rotates payload
  · rw [if_pos rotates, if_pos rotates, bind_apply, rotateSegment_calm queue (room rotates)]
  · rw [if_neg rotates, if_neg rotates]

theorem storeRecord_calm {queue : DiskQueue} (fsyncOnWrite : Bool) (payload : Bytes)
    (fits : queue.activeFile.len + (frame payload).length ≤ maxFileLen) :
    ∃ full : SegmentFile, full.bytes = queue.activeFile.bytes ++ frame payload ∧
      storeRecord fsyncOnWrite payload ⟨queue, []⟩ = .ok () ⟨queue.appended payload full, []⟩ := by
  obtain ⟨full, bytes, written⟩ := appendRecord_calm queue queue.activeSegmentId payload fits
  refine ⟨full, bytes, ?_⟩
  simp only [storeRecord, bind_apply, getQueue_apply, written]
  cases fsyncOnWrite <;> simp [DiskQueue.appended]

theorem enqueue_calm (queue : DiskQueue) (payload : Bytes) (small : payload.length ≤ u32Max)
    (room : queue.rotates payload → queue.activeSegmentId < u64Max)
    (fits : (queue.rotated payload).activeFile.len + (frame payload).length ≤ maxFileLen) :
    ∃ full : SegmentFile,
      full.bytes = (queue.rotated payload).activeFile.bytes ++ frame payload ∧
      enqueue payload ⟨queue, []⟩ = .ok () ⟨(queue.rotated payload).appended payload full, []⟩ := by
  rw [enqueue_rotated small room]
  exact storeRecord_calm queue.options.fsyncOnWrite payload fits

theorem enqueue_overflow {queue : DiskQueue} {payload : Bytes} (small : payload.length ≤ u32Max)
    (rotates : queue.rotates payload) (full : ¬ queue.activeSegmentId < u64Max)
    (plan : List (Option Fault)) :
    enqueue payload ⟨queue, plan⟩ =
      .error (.raised (.corruptSegment "segment id overflow")) ⟨queue, plan⟩ := by
  rw [enqueue_small small, if_pos rotates]
  simp [rotateSegment, full]

/-- Everything `enqueue` can do: append the record, refuse it before touching the
directory, or stop at a file that is full. -/
theorem enqueue_cases (queue : DiskQueue) (payload : Bytes) :
    (∃ full : SegmentFile, payload.length ≤ u32Max ∧
      (queue.rotates payload → queue.activeSegmentId < u64Max) ∧
      full.bytes = (queue.rotated payload).activeFile.bytes ++ frame payload ∧
      enqueue payload ⟨queue, []⟩ = .ok () ⟨(queue.rotated payload).appended payload full, []⟩) ∨
    (∃ error, error ≠ .io ∧ enqueue payload ⟨queue, []⟩ = .error (.raised error) ⟨queue, []⟩) ∨
    (∃ later, enqueue payload ⟨queue, []⟩ = .error (.raised .io) later) := by
  by_cases small : payload.length ≤ u32Max
  · by_cases room : queue.rotates payload → queue.activeSegmentId < u64Max
    · by_cases fits : (queue.rotated payload).activeFile.len + (frame payload).length ≤ maxFileLen
      · obtain ⟨full, bytes, done⟩ := enqueue_calm queue payload small room fits
        exact Or.inl ⟨full, small, room, bytes, done⟩
      · obtain ⟨later, failed⟩ := appendRecord_calm_full (queue.rotated payload)
          (queue.rotated payload).activeSegmentId payload fits
        refine Or.inr (Or.inr ⟨later, ?_⟩)
        rw [enqueue_rotated small room]
        simp only [storeRecord, bind_apply, getQueue_apply, failed]
    · obtain ⟨rotates, exhausted⟩ := Classical.not_imp.mp room
      exact Or.inr (Or.inl ⟨.corruptSegment "segment id overflow", by simp,
        enqueue_overflow small rotates exhausted []⟩)
  · exact Or.inr (Or.inl ⟨.payloadTooLarge payload.length, by simp, enqueue_large small _⟩)

end TelemetryFabric.Buffer
