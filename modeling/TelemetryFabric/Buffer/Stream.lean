import TelemetryFabric.Buffer.Rules

/-!
The segment files as one stream of bytes. Whatever file-system calls fail, no operation
leaves a segment above the active one, and so an `enqueue` only ever adds to the end of the
stream.
-/

namespace TelemetryFabric.Buffer
open Library

/-! ### The active segment is the greatest -/

/-- No segment file is above the active one, which is at least `low`. -/
structure DiskQueue.Bounded (queue : DiskQueue) (low : Nat) : Prop where
  segments : ∀ id ∈ queue.dir.segments.keys, id ≤ queue.activeSegmentId
  active : low ≤ queue.activeSegmentId

namespace DiskQueue.Bounded

variable {queue later : DiskQueue} {low : Nat}

theorem congr (bounded : queue.Bounded low) (segments : later.dir.segments = queue.dir.segments)
    (active : later.activeSegmentId = queue.activeSegmentId) : later.Bounded low := by
  refine ⟨?_, ?_⟩
  · rw [segments, active]
    exact bounded.segments
  · rw [active]
    exact bounded.active

theorem absent (bounded : queue.Bounded low) {id : Nat} (above : queue.activeSegmentId < id) :
    queue.dir.segments.find? id = none := by
  rw [OrderedMap.find?_eq_none_iff]
  intro listed
  exact absurd (bounded.segments id listed) (not_le.mpr above)

/-- The next segment has been numbered; its file is made, or not. -/
theorem advanced (bounded : queue.Bounded low) {id : Nat} (above : queue.activeSegmentId < id) :
    ({ queue with activeSegmentId := id, activeSegmentBytes := 0 } : DiskQueue).Bounded low :=
  ⟨fun other listed => (bounded.segments other listed).trans above.le, bounded.active.trans above.le⟩

theorem put (bounded : queue.Bounded low) {id : Nat} {file : SegmentFile} (bound : id ≤ queue.activeSegmentId)
    (segments : later.dir.segments = queue.dir.segments.insert id file)
    (active : later.activeSegmentId = queue.activeSegmentId) : later.Bounded low := by
  refine ⟨?_, ?_⟩
  · rw [segments, active]
    intro other listed
    rcases (OrderedMap.mem_keys_insert _ _ _ _).mp listed with rfl | listed
    · exact bound
    · exact bounded.segments other listed
  · rw [active]
    exact bounded.active

theorem started (bounded : queue.Bounded low) {id : Nat} (above : queue.activeSegmentId < id) :
    (queue.startSegment id).Bounded low := (bounded.advanced above).put le_rfl rfl rfl

theorem erased (bounded : queue.Bounded low) {id : Nat}
    (segments : later.dir.segments = queue.dir.segments.erase id)
    (active : later.activeSegmentId = queue.activeSegmentId) : later.Bounded low := by
  refine ⟨?_, ?_⟩
  · rw [segments, active]
    intro other listed
    exact bounded.segments other ((OrderedMap.mem_keys_erase _ _ _).mp listed).2
  · rw [active]
    exact bounded.active

theorem rotated (bounded : queue.Bounded low) (payload : Bytes) : (queue.rotated payload).Bounded low := by
  unfold DiskQueue.rotated
  split_ifs
  · exact bounded.started (Nat.lt_succ_self _)
  · exact bounded

theorem ended (bounded : queue.Bounded low) {payload : Bytes} (left : queue.Ended payload later) :
    later.Bounded low := by
  cases left with
  | turned rotates room => exact bounded.advanced (Nat.lt_succ_self _)
  | unopened room => exact bounded.rotated payload
  | cut room written =>
    obtain ⟨file, piece, -, -, rfl⟩ := written
    exact (bounded.rotated payload).put le_rfl rfl rfl

end DiskQueue.Bounded

theorem enqueue_bounded (low : Nat) (payload : Bytes) :
    Retains (fun queue => queue.Bounded low) (enqueue payload) := by
  intro ⟨queue, plan⟩ bounded
  have enqueues := enqueue_enqueues queue payload plan
  unfold Leaves
  generalize enqueue payload ⟨queue, plan⟩ = result at enqueues ⊢
  cases enqueues with
  | stored small room bytes => exact (bounded.rotated payload).put le_rfl rfl rfl
  | refused own => exact bounded
  | ended small outside left => exact bounded.ended left

theorem reads_bounded (low : Nat) : KeptByReads fun queue => queue.Bounded low where
  aside := by
    intro queue id file suffix bounded found
    apply bounded.erased
    · change (queue.dir.renameCorrupt id suffix).segments = _
      rw [Directory.renameCorrupt, found]
    · rfl
  reason := fun _ _ _ bounded => bounded.congr rfl rfl
  numbered := fun bounded above => bounded.advanced above
  started := fun bounded above => bounded.started above

theorem commits_bounded (low : Nat) : KeptByCommits fun queue => queue.Bounded low where
  moved := fun _ bounded => bounded.congr rfl rfl
  removed := fun bounded _ => bounded.erased rfl rfl
  tmp := fun _ bounded => bounded.congr rfl rfl
  renamed := fun bounded => bounded.congr rfl rfl

theorem openDir_bounded (dir : Directory) (options : DiskQueueOptions) :
    (DiskQueue.openDir dir options).Bounded 0 := by
  have greatest : ∀ id ∈ dir.segments.keys, id ≤ dir.segments.keys.max?.getD 1 := by
    intro id listed
    obtain ⟨top, found⟩ := Option.isSome_iff_exists.mp (List.isSome_max?_of_mem listed)
    rw [found]
    exact (List.max?_eq_some_iff.mp found).2 id listed
  refine ⟨?_, Nat.zero_le _⟩
  intro id listed
  unfold DiskQueue.openDir at listed ⊢
  dsimp only at listed ⊢
  split at listed
  · exact greatest id listed
  · rcases (OrderedMap.mem_keys_insert _ _ _ _).mp listed with rfl | listed
    · exact le_rfl
    · exact greatest id listed

/-! ### What an `enqueue` adds -/

/-- Everything in the segment files, in the order of their ids. -/
def DiskQueue.stream (queue : DiskQueue) : Bytes :=
  queue.dir.segments.entries.flatMap fun entry => entry.2.bytes

/-- The part of the stream before the active segment. -/
def DiskQueue.olderStream (queue : DiskQueue) : Bytes :=
  (queue.dir.segments.below queue.activeSegmentId).flatMap fun entry => entry.2.bytes

namespace DiskQueue.Bounded

variable {queue later : DiskQueue} {low : Nat} {payload more : Bytes} {file : SegmentFile}

theorem stream_eq (bounded : queue.Bounded low) : queue.stream = queue.olderStream ++ queue.activeFile.bytes := by
  have none_above : queue.dir.segments.above queue.activeSegmentId = [] :=
    List.filter_eq_nil_iff.mpr fun entry member => by
      simpa using bounded.segments entry.1 (List.mem_map_of_mem member)
  rw [stream, queue.dir.segments.partition_at queue.activeSegmentId, List.flatMap_append, activeFile]
  cases found : queue.dir.segments.find? queue.activeSegmentId with
  | some file =>
    rw [queue.dir.segments.since_of_find?_some found, none_above, List.flatMap_cons, List.flatMap_nil,
      List.append_nil]
    rfl
  | none =>
    rw [queue.dir.segments.since_of_find?_none found, none_above]
    rfl

/-- Writing to the active file changes nothing before it. -/
theorem stream_put (bounded : queue.Bounded low)
    (segments : later.dir.segments = queue.dir.segments.insert queue.activeSegmentId file)
    (active : later.activeSegmentId = queue.activeSegmentId) :
    later.stream = queue.olderStream ++ file.bytes := by
  have laterBounded := bounded.put le_rfl segments active
  rw [laterBounded.stream_eq, olderStream, activeFile, segments, active, OrderedMap.below_insert _ le_rfl,
    OrderedMap.find?_insert_self]
  rfl

theorem stream_rotated (bounded : queue.Bounded low) (payload : Bytes) :
    (queue.rotated payload).stream = queue.stream := by
  unfold DiskQueue.rotated
  split_ifs with rotates
  · have added : (queue.startSegment (queue.activeSegmentId + 1)).dir.segments.entries =
        queue.dir.segments.entries ++ [(queue.activeSegmentId + 1, .empty)] := by
      refine OrderedMap.place_after _ _ _ fun entry member => ?_
      exact Nat.lt_succ_of_le (bounded.segments entry.1 (List.mem_map_of_mem member))
    rw [stream, added, List.flatMap_append]
    simp [stream, SegmentFile.empty]
  · rfl

/-- What reaches the active file comes behind everything else. -/
theorem stream_written (bounded : queue.Bounded low)
    (bytes : file.bytes = (queue.rotated payload).activeFile.bytes ++ more)
    (segments : later.dir.segments =
      (queue.rotated payload).dir.segments.insert (queue.rotated payload).activeSegmentId file)
    (active : later.activeSegmentId = (queue.rotated payload).activeSegmentId) :
    later.stream = queue.stream ++ more := by
  have turned := bounded.rotated payload
  rw [turned.stream_put segments active, bytes, ← List.append_assoc, ← turned.stream_eq,
    bounded.stream_rotated payload]

end DiskQueue.Bounded

/-! ### What a reader finds of it -/

/-- A prefix of a record reads as nothing or as the record. -/
theorem scan_piece {payload piece : Bytes} (small : payload.length ≤ u32Max) (part : piece <+: frame payload) :
    (scan piece).1 = [] ∨ (scan piece).1 = [payload] := by
  rcases part.length_le.lt_or_eq with proper | whole
  · exact Or.inl (scan_torn small part proper)
  · rw [part.eq_of_length whole, scan_one_frame small]
    exact Or.inr rfl

/-- The next segment without its file hides nothing. -/
theorem DiskQueue.Topped.aheadAt_turned {queue : DiskQueue} {cursor : Cursor} (topped : queue.Topped)
    (bound : cursor.segmentId ≤ queue.activeSegmentId) : queue.turned.aheadAt cursor = queue.aheadAt cursor := by
  have reading : ∀ (offset : Nat) (listing : List (Nat × SegmentFile)),
      (∀ entry ∈ listing, entry.1 ≤ queue.activeSegmentId) →
      aheadFrom (queue.activeSegmentId + 1) offset listing = taggedOf offset listing := by
    intro offset listing below
    induction listing generalizing offset with
    | nil => rfl
    | cons entry rest ih =>
      rw [aheadFrom, taggedOf, if_pos (Nat.lt_succ_of_le (below entry (by simp))),
        ih 0 fun other member => below other (List.mem_cons_of_mem _ member)]
  have listed : ∀ entry ∈ queue.dir.segments.since cursor.segmentId, entry.1 ≤ queue.activeSegmentId :=
    fun entry member => topped.le_active (List.mem_filter.mp member).1
  rw [aheadAt_eq_taggedOf topped bound]
  exact reading _ _ listed

/-- A reader at the cursor gets to the last byte of the last segment. -/
structure DiskQueue.Legible (queue : DiskQueue) : Prop where
  topped : queue.Topped
  bound : queue.cursor.segmentId ≤ queue.activeSegmentId
  clean : queue.EndsClean queue.cursor

theorem DiskQueue.Legible.enqueued {queue : DiskQueue} {payload : Bytes} {full : SegmentFile}
    (legible : queue.Legible) (small : payload.length ≤ u32Max)
    (room : queue.rotates payload → queue.activeSegmentId < u64Max)
    (bytes : full.bytes = (queue.rotated payload).activeFile.bytes ++ frame payload) :
    ((queue.rotated payload).appended payload full).Legible := by
  have cursor : ((queue.rotated payload).appended payload full).cursor = queue.cursor :=
    cursor_rotated queue payload
  obtain ⟨topped, -, -⟩ := (legible.topped.rotated room).rewritten queue.cursor
    (show ((queue.rotated payload).appended payload full).dir.segments = _ from rfl) rfl
  refine ⟨topped, ?_, ?_⟩
  · rw [cursor]
    exact legible.bound.trans (activeSegmentId_rotated queue payload)
  · rw [cursor]
    exact endsClean_enqueued legible.bound small bytes (Or.inr legible.clean)

theorem DiskQueue.Legible.readable_enqueued {queue : DiskQueue} {payload : Bytes} {full : SegmentFile}
    (legible : queue.Legible) (small : payload.length ≤ u32Max)
    (room : queue.rotates payload → queue.activeSegmentId < u64Max)
    (bytes : full.bytes = (queue.rotated payload).activeFile.bytes ++ frame payload) :
    ((queue.rotated payload).appended payload full).readable = queue.readable ++ [payload] := by
  have ahead := aheadAt_enqueued legible.topped legible.bound small room bytes (Or.inr legible.clean)
  rw [DiskQueue.readable, show ((queue.rotated payload).appended payload full).cursor = queue.cursor from
    cursor_rotated queue payload, DiskQueue.readableAt, ahead, List.map_append]
  rfl

/-- Everything readable stays so when the file system ends an `enqueue`, and at most the
record itself is added to it. -/
theorem DiskQueue.Ended.readable {queue later : DiskQueue} {payload : Bytes}
    (left : queue.Ended payload later) (small : payload.length ≤ u32Max) (legible : queue.Legible) :
    later.readable = queue.readable ∨
      later.readable = queue.readable ++ [payload] := by
  obtain ⟨topped, bound, clean⟩ := legible
  have cursor := cursor_rotated queue payload
  cases left with
  | turned rotates room =>
    left
    exact congrArg (List.map Prod.snd) (topped.aheadAt_turned bound)
  | unopened room =>
    left
    rw [DiskQueue.readable, cursor]
    exact congrArg (List.map Prod.snd) (topped.aheadAt_rotated room bound)
  | cut room written =>
    obtain ⟨file, piece, part, bytes, rfl⟩ := written
    have ahead : ((queue.rotated payload).withFile _ file).aheadAt queue.cursor = _ :=
      aheadAt_written topped bound room bytes (Or.inr clean) rfl rfl
    rw [DiskQueue.readable, show ((queue.rotated payload).withFile _ file).cursor = queue.cursor from cursor,
      DiskQueue.readableAt, ahead, List.map_append, List.map_map, DiskQueue.readable, DiskQueue.readableAt]
    rcases scan_piece small part with nothing | whole
    · left
      simp [nothing]
    · right
      simp [whole]

/-- Whole or in part, the record is at the end of the stream. -/
theorem DiskQueue.Ended.stream {queue later : DiskQueue} {payload : Bytes} {low : Nat}
    (left : queue.Ended payload later) (bounded : queue.Bounded low) :
    ∃ piece, piece <+: frame payload ∧ later.stream = queue.stream ++ piece := by
  cases left with
  | turned rotates room => exact ⟨[], List.nil_prefix, (List.append_nil _).symm⟩
  | unopened room => exact ⟨[], List.nil_prefix, by rw [bounded.stream_rotated, List.append_nil]⟩
  | cut room written =>
    obtain ⟨file, piece, part, bytes, rfl⟩ := written
    exact ⟨piece, part, bounded.stream_written bytes rfl rfl⟩

end TelemetryFabric.Buffer
