import TelemetryFabric.Buffer.Batch

/-!
Segments nobody has damaged. From the cursor on, every segment outside a list of altered
ones consists of whole records up to its last byte; reading and appending keep it so. A
segment is renamed aside only if it is on the list.
-/

namespace TelemetryFabric.Buffer
open Library

/-- Outside the altered segments a reader at the cursor finds nothing but whole records. -/
def DiskQueue.Intact (queue : DiskQueue) (altered : List Nat) (cursor : Cursor) : Prop :=
  ∀ id file, queue.dir.segments.find? id = some file → cursor.segmentId ≤ id → id ∉ altered →
    cursor.offsetIn id ≤ file.len ∧ (scan (file.bytes.drop (cursor.offsetIn id))).2 = .clean

/-- The records that are not in an altered segment. -/
def unaltered (altered : List Nat) (records : List (Nat × Bytes)) : List (Nat × Bytes) :=
  records.filter (fun record => record.1 ∉ altered)

theorem offsetIn_of_lt {cursor : Cursor} {id : Nat} (less : cursor.segmentId < id) :
    cursor.offsetIn id = 0 :=
  if_neg less.ne

theorem offsetIn_start {cursor : Cursor} (id : Nat) (start : cursor.offset = 0) :
    cursor.offsetIn id = 0 := by
  rw [Cursor.offsetIn, start, ite_self]

namespace DiskQueue.Intact

variable {queue later : DiskQueue} {altered : List Nat} {cursor next : Cursor}

/-- Only an altered segment holds a record the reader refuses. -/
theorem mem_of_refused (intact : queue.Intact altered cursor) {file : SegmentFile}
    (found : queue.dir.segments.find? cursor.segmentId = some file)
    (refused : (parseRecord (file.bytes.drop cursor.offset)).refused = true) :
    cursor.segmentId ∈ altered := by
  by_contra healthy
  have clean := (intact cursor.segmentId file found le_rfl healthy).2
  have bad := (scan_refused refused).2
  rw [Cursor.offsetIn, if_pos rfl] at clean
  rw [clean] at bad
  cases bad

/-- Segments behind the cursor's are read from their start. -/
theorem move (intact : queue.Intact altered cursor) (onward : cursor.segmentId < next.segmentId)
    (start : next.offset = 0)
    (kept : ∀ id file, next.segmentId ≤ id → later.dir.segments.find? id = some file →
      queue.dir.segments.find? id = some file ∨ file = .empty) :
    later.Intact altered next := by
  intro id file found bound healthy
  rw [offsetIn_start id start]
  rcases kept id file bound found with same | rfl
  · have old := intact id file same (onward.le.trans bound) healthy
    rwa [offsetIn_of_lt (onward.trans_le bound)] at old
  · exact ⟨Nat.zero_le _, rfl⟩

theorem lt_of_moveOrEmpty {id : Nat} {target : Cursor}
    (moved : moveOrEmpty ((queue.dir.segments.above id).head?.map (fun entry => ⟨entry.1, 0⟩)) =
      .move target) : id < target.segmentId ∧ target.offset = 0 := by
  obtain ⟨head, rest, listing, rfl⟩ := moveOrEmpty_eq_move moved
  have inside : head ∈ queue.dir.segments.above id := by simp [listing]
  exact ⟨of_decide_eq_true (List.mem_filter.mp inside).2, rfl⟩

theorem of_move (intact : queue.Intact altered cursor)
    (steps : StepsTo queue cursor (.move next) later) : later.Intact altered next := by
  generalize moved : ReadStep.move next = step at steps
  cases steps with
  | missing absent =>
    obtain ⟨onward, start⟩ := lt_of_moveOrEmpty moved.symm
    exact intact.move onward start (fun _ _ _ found => Or.inl found)
  | record => cases moved
  | finished => cases moved
  | leave file found parsed older =>
    obtain ⟨onward, start⟩ := lt_of_moveOrEmpty moved.symm
    exact intact.move onward start (fun _ _ _ found => Or.inl found)
  | quarantine file suffix reason found parsed free older =>
    obtain ⟨onward, start⟩ := lt_of_moveOrEmpty moved.symm
    refine intact.move onward start ?_
    intro id other bound present
    rw [setAside_segments found, OrderedMap.find?_erase, if_neg (by omega)] at present
    exact Or.inl present
  | replace file suffix reason found parsed free active room =>
    cases moved
    refine intact.move (Nat.lt_succ_self _) rfl ?_
    intro id other bound present
    have lower : cursor.segmentId + 1 ≤ id := bound
    simp only [DiskQueue.startSegment, Directory.createSegment] at present
    rw [setAside_segments found, OrderedMap.find?_insert, OrderedMap.find?_erase] at present
    split_ifs at present with here gone
    · cases present
      exact Or.inr rfl
    · exact Or.inl present

theorem of_record {payload : Bytes} (intact : queue.Intact altered cursor)
    (steps : StepsTo queue cursor (.record payload next) later) : later.Intact altered next := by
  obtain ⟨rfl, rfl, file, found, parsed⟩ := steps.of_record
  intro id other present bound healthy
  by_cases here : cursor.segmentId = id
  · subst here
    rw [found] at present
    cases present
    have clean := (intact cursor.segmentId file found le_rfl healthy).2
    rw [Cursor.offsetIn, if_pos rfl] at clean
    rw [Cursor.offsetIn, if_pos rfl]
    refine ⟨record_fits parsed, ?_⟩
    rw [scan_record parsed, List.drop_drop] at clean
    rwa [Nat.add_assoc]
  · have old := intact id other present bound healthy
    rw [Cursor.offsetIn, if_neg here] at old ⊢
    exact old

theorem committed (intact : queue.Intact altered cursor) (target : Cursor) :
    (queue.committed target).Intact altered cursor := by
  intro id file found bound healthy
  apply intact id file ?_ bound healthy
  rw [OrderedMap.find?_eq_some_iff] at found ⊢
  exact (List.mem_filter.mp found).1

theorem startSegment (intact : queue.Intact altered cursor) (id : Nat)
    (beyond : cursor.segmentId < id) : (queue.startSegment id).Intact altered cursor := by
  intro other file found bound healthy
  simp only [DiskQueue.startSegment, Directory.createSegment] at found
  rw [OrderedMap.find?_insert] at found
  split_ifs at found with same
  · cases found
    rw [same, offsetIn_of_lt beyond]
    exact ⟨Nat.zero_le _, rfl⟩
  · exact intact other file found bound healthy

theorem rotated (intact : queue.Intact altered cursor) (payload : Bytes)
    (bound : cursor.segmentId ≤ queue.activeSegmentId) :
    (queue.rotated payload).Intact altered cursor := by
  unfold DiskQueue.rotated
  split_ifs
  · exact intact.startSegment _ (Nat.lt_succ_of_le bound)
  · exact intact

/-- Of the active segment this is what an append needs. -/
theorem endsClean (intact : queue.Intact altered cursor) (topped : queue.Topped)
    (bound : cursor.segmentId ≤ queue.activeSegmentId) (healthy : queue.activeSegmentId ∉ altered) :
    queue.EndsClean cursor :=
  intact queue.activeSegmentId queue.activeFile topped.find?_active bound healthy

theorem appended (intact : queue.Intact altered cursor) (topped : queue.Topped)
    (bound : cursor.segmentId ≤ queue.activeSegmentId) {payload : Bytes} {full : SegmentFile}
    (written : full.bytes = queue.activeFile.bytes ++ frame payload) (small : payload.length ≤ u32Max) :
    (queue.appended payload full).Intact altered cursor := by
  intro id file found reached healthy
  simp only [DiskQueue.appended] at found
  rw [OrderedMap.find?_insert] at found
  split_ifs at found with same
  · cases found
    subst same
    obtain ⟨offset, clean⟩ := intact.endsClean topped bound healthy
    rw [scan_written offset clean written, scan_one_frame small]
    refine ⟨offset.trans ?_, rfl⟩
    rw [SegmentFile.len, SegmentFile.len, written, List.length_append]
    exact Nat.le_add_right _ _
  · exact intact id file found reached healthy

/-- What an `enqueue` adds to the undamaged records ahead, whatever the active segment is. -/
theorem unaltered_enqueued (intact : queue.Intact altered cursor) (topped : queue.Topped)
    (bound : cursor.segmentId ≤ queue.activeSegmentId) {payload : Bytes} {full : SegmentFile}
    (small : payload.length ≤ u32Max)
    (room : queue.rotates payload → queue.activeSegmentId < u64Max)
    (written : full.bytes = (queue.rotated payload).activeFile.bytes ++ frame payload) :
    unaltered altered (((queue.rotated payload).appended payload full).aheadAt cursor) =
      unaltered altered (queue.aheadAt cursor ++ [((queue.rotated payload).activeSegmentId, payload)]) := by
  have reached := bound.trans (activeSegmentId_rotated queue payload)
  have top := topped.rotated room
  have ahead : ((queue.rotated payload).appended payload full).aheadAt cursor = _ :=
    top.aheadAt_rewritten reached rfl rfl
  rw [ahead, ← topped.aheadAt_rotated room bound, top.aheadAt_split reached]
  by_cases healthy : (queue.rotated payload).activeSegmentId ∈ altered
  · -- all of the active segment is filtered out on both sides
    simp [unaltered, List.filter_append, List.filter_map, Function.comp_def, healthy]
  · obtain ⟨offset, clean⟩ := (intact.rotated payload bound).endsClean top reached healthy
    rw [scan_written offset clean written, scan_one_frame small]
    simp [DiskQueue.activeScan]

end DiskQueue.Intact

end TelemetryFabric.Buffer
