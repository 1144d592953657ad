import TelemetryFabric.Buffer.ReadLoop

/-!
What is readable while the active segment is the last one on disk: simply the records of
the segments from the cursor on. Appending adds one record at their end, unless it lands
behind bytes that do not end at a record boundary.
-/

namespace TelemetryFabric.Buffer
open Library

/-- The records of consecutive segments, the first one read from an offset. -/
def recordsOf : Nat → List (Nat × SegmentFile) → List Bytes
  | _, [] => []
  | offset, (_, file) :: later => (scan (file.bytes.drop offset)).1 ++ recordsOf 0 later

theorem recordsOf_append (offset : Nat) (first second : List (Nat × SegmentFile))
    (nonempty : first ≠ []) :
    recordsOf offset (first ++ second) = recordsOf offset first ++ recordsOf 0 second := by
  induction first generalizing offset with
  | nil => exact absurd rfl nonempty
  | cons entry rest ih =>
    cases rest with
    | nil => simp [recordsOf]
    | cons other rest =>
      rw [List.cons_append, recordsOf, recordsOf, ih 0 (by simp), List.append_assoc]

/-- The same records, each with the segment it is in. -/
def taggedOf : Nat → List (Nat × SegmentFile) → List (Nat × Bytes)
  | _, [] => []
  | offset, (id, file) :: later =>
      (scan (file.bytes.drop offset)).1.map (fun payload => (id, payload)) ++ taggedOf 0 later

theorem map_taggedOf (offset : Nat) (listing : List (Nat × SegmentFile)) :
    (taggedOf offset listing).map Prod.snd = recordsOf offset listing := by
  induction listing generalizing offset with
  | nil => rfl
  | cons entry later ih =>
    rw [taggedOf, recordsOf, List.map_append, ih 0, List.map_map]
    simp [Function.comp_def]

theorem taggedOf_append (offset : Nat) (first second : List (Nat × SegmentFile))
    (nonempty : first ≠ []) :
    taggedOf offset (first ++ second) = taggedOf offset first ++ taggedOf 0 second := by
  induction first generalizing offset with
  | nil => exact absurd rfl nonempty
  | cons entry rest ih =>
    cases rest with
    | nil => simp [taggedOf]
    | cons other rest =>
      rw [List.cons_append, taggedOf, taggedOf, ih 0 (by simp), List.append_assoc]

theorem aheadFrom_eq_taggedOf (active offset : Nat) (older : List (Nat × SegmentFile))
    (file : SegmentFile) (below : ∀ entry ∈ older, entry.1 < active) :
    aheadFrom active offset (older ++ [(active, file)]) = taggedOf offset (older ++ [(active, file)]) := by
  induction older generalizing offset with
  | nil => simp [aheadFrom, taggedOf]
  | cons entry rest ih =>
    rw [List.cons_append, aheadFrom, taggedOf, if_pos (below entry (by simp)),
      ih 0 (fun other member => below other (List.mem_cons_of_mem _ member))]

theorem below_active {queue : DiskQueue} {older : List (Nat × SegmentFile)} {file : SegmentFile}
    (listing : queue.dir.segments.entries = older ++ [(queue.activeSegmentId, file)]) :
    ∀ entry ∈ older, entry.1 < queue.activeSegmentId := by
  have ordered := queue.dir.segments.ordered
  rw [listing] at ordered
  intro entry member
  exact (List.pairwise_append.mp ordered).2.2 entry member (queue.activeSegmentId, file) (by simp)

/-- The active segment is the last one on disk. -/
structure DiskQueue.Topped (queue : DiskQueue) : Prop where
  last : ∃ older file, queue.dir.segments.entries = older ++ [(queue.activeSegmentId, file)]
  idFits : queue.activeSegmentId ≤ u64Max

namespace DiskQueue.Topped

variable {queue : DiskQueue}

theorem le_active (topped : queue.Topped) {entry : Nat × SegmentFile}
    (member : entry ∈ queue.dir.segments.entries) : entry.1 ≤ queue.activeSegmentId := by
  obtain ⟨older, file, listing⟩ := topped.last
  rw [listing] at member
  rcases List.mem_append.mp member with old | top
  · exact (below_active listing entry old).le
  · rw [List.mem_singleton.mp top]

theorem find?_active (topped : queue.Topped) :
    queue.dir.segments.find? queue.activeSegmentId = some queue.activeFile := by
  obtain ⟨older, file, listing⟩ := topped.last
  have found : queue.dir.segments.find? queue.activeSegmentId = some file :=
    (queue.dir.segments.find?_eq_some_iff _ _).mpr (by simp [listing])
  rw [found, DiskQueue.activeFile, found]
  rfl

theorem entries_eq (topped : queue.Topped) :
    ∃ older, queue.dir.segments.entries = older ++ [(queue.activeSegmentId, queue.activeFile)] := by
  obtain ⟨older, file, listing⟩ := topped.last
  have found : queue.dir.segments.find? queue.activeSegmentId = some file :=
    (queue.dir.segments.find?_eq_some_iff _ _).mpr (by simp [listing])
  refine ⟨older, ?_⟩
  rw [listing, DiskQueue.activeFile, found]
  rfl

/-- From any id up to the active one on, the listing ends in the active segment. -/
theorem since_eq (topped : queue.Topped) {id : Nat} (bound : id ≤ queue.activeSegmentId) :
    ∃ older, queue.dir.segments.since id = older ++ [(queue.activeSegmentId, queue.activeFile)] ∧
      ∀ entry ∈ older, entry.1 < queue.activeSegmentId := by
  obtain ⟨older, listing⟩ := topped.entries_eq
  refine ⟨older.filter (fun entry => id ≤ entry.1), ?_, ?_⟩
  · rw [OrderedMap.since, listing, List.filter_append]
    simp [bound]
  · intro entry member
    exact below_active listing entry (List.mem_filter.mp member).1

end DiskQueue.Topped

/-- The offset reading starts from: a cursor into a missing segment stands for the start
of the next one. -/
def DiskQueue.startOffset (queue : DiskQueue) (cursor : Cursor) : Nat :=
  if (queue.dir.segments.find? cursor.segmentId).isSome then cursor.offset else 0

theorem aheadAt_eq_taggedOf {queue : DiskQueue} {cursor : Cursor} (topped : queue.Topped)
    (bound : cursor.segmentId ≤ queue.activeSegmentId) :
    queue.aheadAt cursor =
      taggedOf (queue.startOffset cursor) (queue.dir.segments.since cursor.segmentId) := by
  obtain ⟨older, listing, below⟩ := topped.since_eq bound
  rw [DiskQueue.aheadAt, DiskQueue.startOffset, listing]
  exact aheadFrom_eq_taggedOf _ _ older _ below

theorem readableAt_eq_recordsOf {queue : DiskQueue} {cursor : Cursor} (topped : queue.Topped)
    (bound : cursor.segmentId ≤ queue.activeSegmentId) :
    queue.readableAt cursor =
      recordsOf (queue.startOffset cursor) (queue.dir.segments.since cursor.segmentId) := by
  rw [DiskQueue.readableAt, aheadAt_eq_taggedOf topped bound, map_taggedOf]

/-! ### The active segment -/

/-- Where a reader at the cursor enters a segment at or behind it. -/
def Cursor.offsetIn (cursor : Cursor) (id : Nat) : Nat :=
  if cursor.segmentId = id then cursor.offset else 0

/-- What a reader at the cursor will find in the active segment. -/
def DiskQueue.activeScan (queue : DiskQueue) (cursor : Cursor) : List Bytes × Tail :=
  scan (queue.activeFile.bytes.drop (cursor.offsetIn queue.activeSegmentId))

/-- The reader will find whole records up to the last byte of the active segment. -/
def DiskQueue.EndsClean (queue : DiskQueue) (cursor : Cursor) : Prop :=
  cursor.offsetIn queue.activeSegmentId ≤ queue.activeFile.len ∧ (queue.activeScan cursor).2 = .clean

/-- The cursor stands at a record of the active segment as a reader from its start finds
them, or before that segment. -/
def DiskQueue.Level (queue : DiskQueue) (cursor : Cursor) : Prop :=
  cursor.offsetIn queue.activeSegmentId ≤ queue.activeFile.len ∧
    (queue.activeScan cursor).2 = (scan queue.activeFile.bytes).2

/-- The records from a cursor on that lie before the active segment. -/
def DiskQueue.olderAhead (queue : DiskQueue) (cursor : Cursor) : List (Nat × Bytes) :=
  taggedOf (queue.startOffset cursor)
    ((queue.dir.segments.since cursor.segmentId).filter (fun entry => entry.1 < queue.activeSegmentId))

namespace DiskQueue.Topped

variable {queue later : DiskQueue} {cursor : Cursor}

theorem since_active (topped : queue.Topped) (bound : cursor.segmentId ≤ queue.activeSegmentId) :
    queue.dir.segments.since cursor.segmentId =
      (queue.dir.segments.since cursor.segmentId).filter (fun entry => entry.1 < queue.activeSegmentId) ++
        [(queue.activeSegmentId, queue.activeFile)] := by
  obtain ⟨older, listing, below⟩ := topped.since_eq bound
  have kept : older.filter (fun entry => entry.1 < queue.activeSegmentId) = older :=
    List.filter_eq_self.mpr fun entry member => by simpa using below entry member
  rw [listing, List.filter_append, kept]
  simp

/-- With no older segment left, reading starts in the active one. -/
theorem startOffset_active (topped : queue.Topped) (bound : cursor.segmentId ≤ queue.activeSegmentId)
    (none : (queue.dir.segments.since cursor.segmentId).filter
      (fun entry => entry.1 < queue.activeSegmentId) = []) :
    queue.startOffset cursor = cursor.offsetIn queue.activeSegmentId := by
  unfold startOffset Cursor.offsetIn
  by_cases here : cursor.segmentId = queue.activeSegmentId
  · rw [here, topped.find?_active]
    simp
  · have absent : queue.dir.segments.find? cursor.segmentId = Option.none := by
      rw [OrderedMap.find?_eq_none_iff]
      intro listed
      obtain ⟨entry, member, same⟩ := List.mem_map.mp listed
      have inside : entry ∈ (queue.dir.segments.since cursor.segmentId).filter
          (fun entry => entry.1 < queue.activeSegmentId) := by
        refine List.mem_filter.mpr ⟨List.mem_filter.mpr ⟨member, ?_⟩, ?_⟩
        · simp [same]
        · simpa [same] using lt_of_le_of_ne bound here
      rw [none] at inside
      cases inside
    rw [absent, if_neg here]
    rfl

/-- What is ahead: the older segments, then what the reader finds in the active one. -/
theorem aheadAt_split (topped : queue.Topped) (bound : cursor.segmentId ≤ queue.activeSegmentId) :
    queue.aheadAt cursor = queue.olderAhead cursor ++
      (queue.activeScan cursor).1.map (fun payload => (queue.activeSegmentId, payload)) := by
  rw [aheadAt_eq_taggedOf topped bound, topped.since_active bound, olderAhead, activeScan]
  cases before : (queue.dir.segments.since cursor.segmentId).filter
      (fun entry => entry.1 < queue.activeSegmentId) with
  | nil =>
    rw [topped.startOffset_active bound before]
    simp [taggedOf]
  | cons head rest =>
    have inside : head ∈ (queue.dir.segments.since cursor.segmentId).filter
        (fun entry => entry.1 < queue.activeSegmentId) := by simp [before]
    obtain ⟨since, less⟩ := List.mem_filter.mp inside
    have low : cursor.segmentId ≤ head.1 := by simpa using (List.mem_filter.mp since).2
    have other : cursor.segmentId ≠ queue.activeSegmentId := (low.trans_lt (by simpa using less)).ne
    rw [taggedOf_append _ _ _ (by simp), Cursor.offsetIn, if_neg other]
    simp [taggedOf]

/-- Writing to the active file changes nothing before it. -/
theorem rewritten (topped : queue.Topped) (cursor : Cursor) {file : SegmentFile}
    (segments : later.dir.segments = queue.dir.segments.insert queue.activeSegmentId file)
    (active : later.activeSegmentId = queue.activeSegmentId) :
    later.Topped ∧ later.activeFile = file ∧
      (cursor.segmentId ≤ queue.activeSegmentId → later.olderAhead cursor = queue.olderAhead cursor) := by
  have found : later.dir.segments.find? later.activeSegmentId = some file := by
    rw [segments, active, OrderedMap.find?_insert_self]
  obtain ⟨older, listing⟩ := topped.entries_eq
  have entries : later.dir.segments.entries = older ++ [(queue.activeSegmentId, file)] := by
    rw [segments, OrderedMap.insert_entries, listing,
      OrderedMap.place_last _ _ _ _ (below_active listing)]
  refine ⟨⟨⟨older, file, active ▸ entries⟩, active ▸ topped.idFits⟩, ?_, ?_⟩
  · rw [DiskQueue.activeFile, found]
    rfl
  · intro bound
    have start : later.startOffset cursor = queue.startOffset cursor := by
      unfold startOffset
      rw [segments, OrderedMap.find?_insert]
      split_ifs with here <;> simp_all [topped.find?_active]
    have kept : (later.dir.segments.since cursor.segmentId).filter
        (fun entry => entry.1 < queue.activeSegmentId) =
          (queue.dir.segments.since cursor.segmentId).filter
            (fun entry => entry.1 < queue.activeSegmentId) := by
      simp only [OrderedMap.since, entries, listing, List.filter_append, bound, decide_true,
        List.filter_cons, if_true, List.filter_nil, lt_self_iff_false, decide_false, if_false,
        Bool.false_eq_true]
    rw [olderAhead, olderAhead, start, active, kept]

theorem aheadAt_rewritten (topped : queue.Topped) {file : SegmentFile}
    (bound : cursor.segmentId ≤ queue.activeSegmentId)
    (segments : later.dir.segments = queue.dir.segments.insert queue.activeSegmentId file)
    (active : later.activeSegmentId = queue.activeSegmentId) :
    later.aheadAt cursor = queue.olderAhead cursor ++
      (scan (file.bytes.drop (cursor.offsetIn queue.activeSegmentId))).1.map
        (fun payload => (queue.activeSegmentId, payload)) := by
  obtain ⟨laterTopped, content, older⟩ := topped.rewritten cursor segments active
  rw [laterTopped.aheadAt_split (active ▸ bound), older bound, activeScan, content, active]

theorem startSegment_entries (topped : queue.Topped) :
    (queue.startSegment (queue.activeSegmentId + 1)).dir.segments.entries =
      queue.dir.segments.entries ++ [(queue.activeSegmentId + 1, .empty)] := by
  refine OrderedMap.place_after _ _ _ ?_
  intro entry member
  exact Nat.lt_succ_of_le (topped.le_active member)

theorem startSegment (topped : queue.Topped) (room : queue.activeSegmentId < u64Max) :
    (queue.startSegment (queue.activeSegmentId + 1)).Topped :=
  ⟨⟨_, _, topped.startSegment_entries⟩, room⟩

/-- A new active segment hides nothing. -/
theorem aheadAt_startSegment (topped : queue.Topped) (room : queue.activeSegmentId < u64Max)
    (bound : cursor.segmentId ≤ queue.activeSegmentId) :
    (queue.startSegment (queue.activeSegmentId + 1)).aheadAt cursor = queue.aheadAt cursor := by
  have found : (queue.startSegment (queue.activeSegmentId + 1)).dir.segments.find? cursor.segmentId =
      queue.dir.segments.find? cursor.segmentId := by
    simp only [DiskQueue.startSegment, Directory.createSegment]
    rw [OrderedMap.find?_insert, if_neg (by omega)]
  have listing : (queue.startSegment (queue.activeSegmentId + 1)).dir.segments.since cursor.segmentId =
      queue.dir.segments.since cursor.segmentId ++ [(queue.activeSegmentId + 1, .empty)] := by
    rw [OrderedMap.since, topped.startSegment_entries, List.filter_append]
    simp [OrderedMap.since, Nat.le_succ_of_le bound]
  rw [aheadAt_eq_taggedOf (topped.startSegment room) (Nat.le_succ_of_le bound),
    aheadAt_eq_taggedOf topped bound, startOffset, startOffset, found, listing,
    taggedOf_append _ _ _ (by rw [topped.since_active bound]; simp)]
  simp [taggedOf, SegmentFile.empty]

theorem rotated (topped : queue.Topped) {payload : Bytes}
    (room : queue.rotates payload → queue.activeSegmentId < u64Max) :
    (queue.rotated payload).Topped := by
  unfold DiskQueue.rotated
  split_ifs with rotates
  · exact topped.startSegment (room rotates)
  · exact topped

theorem aheadAt_rotated (topped : queue.Topped) {payload : Bytes}
    (room : queue.rotates payload → queue.activeSegmentId < u64Max)
    (bound : cursor.segmentId ≤ queue.activeSegmentId) :
    (queue.rotated payload).aheadAt cursor = queue.aheadAt cursor := by
  unfold DiskQueue.rotated
  split_ifs with rotates
  · exact topped.aheadAt_startSegment (room rotates) bound
  · rfl

end DiskQueue.Topped

/-! ### Appending -/

theorem activeFile_startSegment (queue : DiskQueue) (id : Nat) :
    (queue.startSegment id).activeFile = .empty := by
  simp [DiskQueue.activeFile, DiskQueue.startSegment, Directory.createSegment]

theorem activeSegmentId_rotated (queue : DiskQueue) (payload : Bytes) :
    queue.activeSegmentId ≤ (queue.rotated payload).activeSegmentId := by
  unfold DiskQueue.rotated
  split_ifs
  · exact Nat.le_succ _
  · exact le_rfl

theorem cursor_rotated (queue : DiskQueue) (payload : Bytes) :
    (queue.rotated payload).cursor = queue.cursor := by
  unfold DiskQueue.rotated
  split_ifs <;> rfl

/-- A segment that has just been started ends cleanly. -/
theorem endsClean_rotated {queue : DiskQueue} {cursor : Cursor} {payload : Bytes}
    (bound : cursor.segmentId ≤ queue.activeSegmentId)
    (seen : queue.rotates payload ∨ queue.EndsClean cursor) :
    (queue.rotated payload).EndsClean cursor := by
  by_cases rotates : queue.rotates payload
  · have outside : cursor.segmentId ≠ queue.activeSegmentId + 1 := by omega
    rw [DiskQueue.rotated, if_pos rotates, DiskQueue.EndsClean, DiskQueue.activeScan,
      activeFile_startSegment]
    simp [DiskQueue.startSegment, Cursor.offsetIn, outside, SegmentFile.empty]
  · rw [DiskQueue.rotated, if_neg rotates]
    exact seen.resolve_left rotates

/-- Bytes written behind a clean end are read after everything else. -/
theorem scan_written {file full : SegmentFile} {more : Bytes} {offset : Nat}
    (bound : offset ≤ file.len) (clean : (scan (file.bytes.drop offset)).2 = .clean)
    (written : full.bytes = file.bytes ++ more) :
    scan (full.bytes.drop offset) =
      ((scan (file.bytes.drop offset)).1 ++ (scan more).1, (scan more).2) := by
  rw [written, List.drop_append_of_le_length bound, scan_append _ clean]

/-- Whatever an `enqueue` gets into the file, whole or cut short, is read after everything
that was ahead, unless it lands behind a torn or refused record. -/
theorem aheadAt_written {queue later : DiskQueue} {cursor : Cursor} {payload more : Bytes}
    {full : SegmentFile} (topped : queue.Topped)
    (bound : cursor.segmentId ≤ queue.activeSegmentId)
    (room : queue.rotates payload → queue.activeSegmentId < u64Max)
    (written : full.bytes = (queue.rotated payload).activeFile.bytes ++ more)
    (seen : queue.rotates payload ∨ queue.EndsClean cursor)
    (segments : later.dir.segments =
      (queue.rotated payload).dir.segments.insert (queue.rotated payload).activeSegmentId full)
    (active : later.activeSegmentId = (queue.rotated payload).activeSegmentId) :
    later.aheadAt cursor = queue.aheadAt cursor ++
      (scan more).1.map (fun record => ((queue.rotated payload).activeSegmentId, record)) := by
  have reached := bound.trans (activeSegmentId_rotated queue payload)
  obtain ⟨offset, clean⟩ := endsClean_rotated bound seen
  rw [(topped.rotated room).aheadAt_rewritten reached segments active, scan_written offset clean written,
    ← topped.aheadAt_rotated room bound, (topped.rotated room).aheadAt_split reached]
  simp [DiskQueue.activeScan]

theorem scan_one_frame {payload : Bytes} (small : payload.length ≤ u32Max) :
    scan (frame payload) = ([payload], .clean) := by
  simpa using scan_frame payload [] small

theorem aheadAt_enqueued {queue : DiskQueue} {cursor : Cursor} {payload : Bytes}
    {full : SegmentFile} (topped : queue.Topped)
    (bound : cursor.segmentId ≤ queue.activeSegmentId) (small : payload.length ≤ u32Max)
    (room : queue.rotates payload → queue.activeSegmentId < u64Max)
    (written : full.bytes = (queue.rotated payload).activeFile.bytes ++ frame payload)
    (seen : queue.rotates payload ∨ queue.EndsClean cursor) :
    ((queue.rotated payload).appended payload full).aheadAt cursor =
      queue.aheadAt cursor ++ [((queue.rotated payload).activeSegmentId, payload)] := by
  have ahead : ((queue.rotated payload).appended payload full).aheadAt cursor = _ :=
    aheadAt_written topped bound room written seen rfl rfl
  rw [ahead, scan_one_frame small]
  rfl

theorem activeFile_appended (queue : DiskQueue) (payload : Bytes) (full : SegmentFile) :
    (queue.appended payload full).activeFile = full := by
  simp [DiskQueue.activeFile, DiskQueue.appended]

theorem endsClean_enqueued {queue : DiskQueue} {cursor : Cursor} {payload : Bytes}
    {full : SegmentFile} (bound : cursor.segmentId ≤ queue.activeSegmentId)
    (small : payload.length ≤ u32Max)
    (written : full.bytes = (queue.rotated payload).activeFile.bytes ++ frame payload)
    (seen : queue.rotates payload ∨ queue.EndsClean cursor) :
    ((queue.rotated payload).appended payload full).EndsClean cursor := by
  obtain ⟨offset, clean⟩ := endsClean_rotated bound seen
  have scanned := scan_written offset clean written
  rw [DiskQueue.EndsClean, DiskQueue.activeScan, activeFile_appended]
  refine ⟨offset.trans ?_, ?_⟩
  · rw [SegmentFile.len, SegmentFile.len, written, List.length_append]
    exact Nat.le_add_right _ _
  · rw [scan_one_frame small] at scanned
    exact congrArg Prod.snd scanned

/-- An empty record that lands behind a torn or refused one, or before the cursor, is lost. -/
theorem readableAt_hidden {queue : DiskQueue} {cursor : Cursor} {full : SegmentFile}
    (topped : queue.Topped) (bound : cursor.segmentId ≤ queue.activeSegmentId)
    (torn : ¬ queue.EndsClean cursor) (written : full.bytes = queue.activeFile.bytes ++ frame []) :
    (queue.appended [] full).readableAt cursor ≠ queue.readableAt cursor ++ [[]] := by
  have ahead : (queue.appended [] full).aheadAt cursor = _ := topped.aheadAt_rewritten bound rfl rfl
  intro same
  rw [DiskQueue.readableAt, DiskQueue.readableAt, ahead, topped.aheadAt_split bound, List.map_append,
    List.map_append, List.append_assoc, List.map_map, List.map_map] at same
  have found := List.append_cancel_left same
  simp only [Function.comp_def, List.map_id', written] at found
  by_cases offset : cursor.offsetIn queue.activeSegmentId ≤ queue.activeFile.len
  · rw [List.drop_append_of_le_length offset] at found
    exact scan_behind_torn (fun clean => torn ⟨offset, clean⟩) found
  · -- the cursor is behind the last byte, so less than a header is left from it on
    have short : ((queue.activeFile.bytes ++ frame []).drop
        (cursor.offsetIn queue.activeSegmentId)).length < recordHeaderLen := by
      rw [List.length_drop, List.length_append, length_frame]
      simp only [SegmentFile.len, recordHeaderLen, List.length_nil] at *
      omega
    have nothing : parseRecord ((queue.activeFile.bytes ++ frame []).drop
        (cursor.offsetIn queue.activeSegmentId)) = .endOfFile := by
      rw [parseRecord, if_pos short]
    rw [scan_endOfFile nothing] at found
    simp at found

/-! ### Cursors at a record boundary -/

theorem DiskQueue.Level.congr {queue later : DiskQueue} {cursor next : Cursor}
    (level : queue.Level cursor) (content : later.activeFile = queue.activeFile)
    (offset : next.offsetIn later.activeSegmentId = cursor.offsetIn queue.activeSegmentId) :
    later.Level next := by
  rw [DiskQueue.Level, DiskQueue.activeScan, content, offset]
  exact level

theorem DiskQueue.Level.of_start {queue : DiskQueue} {cursor : Cursor}
    (start : cursor.offsetIn queue.activeSegmentId = 0) : queue.Level cursor := by
  rw [DiskQueue.Level, DiskQueue.activeScan, start]
  exact ⟨Nat.zero_le _, rfl⟩

/-- A file without a torn end is read to its last byte from every level cursor. -/
theorem DiskQueue.Level.endsClean {queue : DiskQueue} {cursor : Cursor} (level : queue.Level cursor)
    (clean : (scan queue.activeFile.bytes).2 = .clean) : queue.EndsClean cursor :=
  ⟨level.1, level.2.trans clean⟩

/-- Writing behind a clean end keeps the cursors before it level. -/
theorem DiskQueue.Level.written {queue later : DiskQueue} {cursor : Cursor} {payload more : Bytes}
    {full : SegmentFile} (level : queue.Level cursor)
    (bound : cursor.segmentId ≤ queue.activeSegmentId)
    (written : full.bytes = (queue.rotated payload).activeFile.bytes ++ more)
    (seen : queue.rotates payload ∨ (scan queue.activeFile.bytes).2 = .clean)
    (content : later.activeFile = full)
    (active : later.activeSegmentId = (queue.rotated payload).activeSegmentId) :
    later.Level cursor := by
  by_cases rotates : queue.rotates payload
  · apply DiskQueue.Level.of_start
    rw [active, DiskQueue.rotated, if_pos rotates]
    exact if_neg (by change ¬ _ = queue.activeSegmentId + 1; omega)
  · have same : queue.rotated payload = queue := if_neg rotates
    rw [same] at written active
    have clean := seen.resolve_left rotates
    have whole := scan_written (Nat.zero_le queue.activeFile.len) clean written
    have part := scan_written level.1 (level.endsClean clean).2 written
    rw [DiskQueue.Level, DiskQueue.activeScan, content, active, part]
    refine ⟨level.1.trans ?_, ?_⟩
    · rw [SegmentFile.len, SegmentFile.len, written, List.length_append]
      exact Nat.le_add_right _ _
    · rw [List.drop_zero] at whole
      rw [whole]

end TelemetryFabric.Buffer
