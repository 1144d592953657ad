import TelemetryFabric.Buffer.Records

/-!
The shape of a queue that can be read and appended to, whatever its segments hold: the
active segment is the last one on disk, the cursor is at or before it, and ids renamed
aside stay unused. As long as no file-system call fails the cursor file records the
cursor, too, and no segment before it is left.
-/

namespace TelemetryFabric.Buffer
open Library

/-- A cursor a reader of the queue can hold: not before the committed one, not behind the
active segment, and small enough for the cursor file. -/
def DiskQueue.Within (queue : DiskQueue) (cursor : Cursor) : Prop :=
  queue.cursor.segmentId ≤ cursor.segmentId ∧ cursor.segmentId ≤ queue.activeSegmentId ∧
    cursor.offset ≤ u64Max

/-- What reading and appending rest on. Ids that were renamed aside are never used again. -/
structure DiskQueue.Shaped (queue : DiskQueue) : Prop where
  topped : queue.Topped
  within : queue.Within queue.cursor
  positive : 1 ≤ queue.cursor.segmentId
  retired : ∀ file ∈ queue.dir.corrupt, file.id < queue.activeSegmentId ∧
    queue.dir.segments.find? file.id = none
  distinct : queue.dir.corrupt.Pairwise (fun first second => first.id ≠ second.id)

/-- What holds of every queue that no file-system call has failed. -/
structure DiskQueue.Sound (queue : DiskQueue) : Prop extends queue.Shaped where
  floor : ∀ entry ∈ queue.dir.segments.entries, queue.cursor.segmentId ≤ entry.1
  cursorFile : queue.dir.cursor = some (cursorText queue.cursor)
  cursorTmp : queue.dir.cursorTmp = none

def ReadStep.target : ReadStep → Option Cursor
  | .record _ next => some next
  | .move next => some next
  | .empty => none

theorem record_fits {file : SegmentFile} {offset : Nat} {payload : Bytes}
    (parsed : parseRecord (file.bytes.drop offset) = .record payload) :
    offset + recordHeaderLen + payload.length ≤ file.len := by
  have bound := parseRecord_record_length parsed
  rw [List.length_drop] at bound
  simp only [recordHeaderLen, SegmentFile.len] at *
  omega

theorem len_le_u64Max (file : SegmentFile) : file.len ≤ u64Max :=
  file.fits.trans (by decide)

/-- The listing once the active segment has been renamed aside and replaced. -/
theorem DiskQueue.Topped.replaced_entries {queue : DiskQueue} (topped : queue.Topped)
    {file : SegmentFile} (suffix : Nat) (reason : String)
    (found : queue.dir.segments.find? queue.activeSegmentId = some file) :
    ((queue.setAside queue.activeSegmentId suffix file reason).startSegment
      (queue.activeSegmentId + 1)).dir.segments.entries =
        queue.dir.segments.below queue.activeSegmentId ++ [(queue.activeSegmentId + 1, .empty)] := by
  have remaining : (queue.dir.segments.erase queue.activeSegmentId).entries =
      queue.dir.segments.below queue.activeSegmentId := by
    apply List.filter_congr
    intro entry member
    have bound := topped.le_active member
    rw [decide_eq_decide]
    omega
  simp only [DiskQueue.startSegment, Directory.createSegment, OrderedMap.insert_entries]
  rw [setAside_segments found, remaining]
  apply OrderedMap.place_after
  intro entry member
  exact Nat.lt_succ_of_le (topped.le_active (List.mem_filter.mp member).1)

theorem DiskQueue.Topped.keys_max? {queue : DiskQueue} (topped : queue.Topped) :
    queue.dir.segments.keys.max? = some queue.activeSegmentId := by
  rw [List.max?_eq_some_iff]
  constructor
  · rw [OrderedMap.mem_keys_iff, topped.find?_active]
    rfl
  · intro id member
    obtain ⟨entry, inside, rfl⟩ := List.mem_map.mp member
    exact topped.le_active inside

namespace DiskQueue.Topped

variable {queue later : DiskQueue} {cursor : Cursor}

theorem segmentId_eq_active (topped : queue.Topped) {file : SegmentFile}
    (found : queue.dir.segments.find? cursor.segmentId = some file)
    (active : ¬ cursor.segmentId < queue.activeSegmentId) :
    cursor.segmentId = queue.activeSegmentId := by
  have member := (queue.dir.segments.find?_eq_some_iff _ _).mp found
  exact le_antisymm (topped.le_active member) (not_lt.mp active)

theorem offset_of_moveOrEmpty {target : Option (Nat × SegmentFile)} {next : Cursor}
    (moved : (moveOrEmpty (target.map (fun entry => ⟨entry.1, 0⟩))).target = some next) :
    next.offset = 0 := by
  cases target with
  | none => cases moved
  | some head =>
    cases moved
    rfl

theorem offsetIn_zero {next : Cursor} (start : next.offset = 0) : next.offsetIn queue.activeSegmentId = 0 := by
  rw [Cursor.offsetIn, start, ite_self]

/-- While the active segment stays the same, a step changes nothing about how the
reader will find it to end. -/
theorem activeScan_stepsTo (topped : queue.Topped) {step : ReadStep}
    (steps : StepsTo queue cursor step later)
    (same : later.activeSegmentId = queue.activeSegmentId) :
    later.activeFile = queue.activeFile ∧ ∀ next, step.target = some next →
      (later.activeScan next).2 = (queue.activeScan cursor).2 ∧
      (cursor.offsetIn queue.activeSegmentId ≤ queue.activeFile.len →
        next.offsetIn later.activeSegmentId ≤ queue.activeFile.len) := by
  have outside : cursor.segmentId < queue.activeSegmentId → cursor.offsetIn queue.activeSegmentId = 0 :=
    fun older => if_neg older.ne
  cases steps with
  | missing absent =>
    refine ⟨rfl, ?_⟩
    intro next moved
    have other : cursor.segmentId ≠ queue.activeSegmentId := by
      intro here
      rw [here, topped.find?_active] at absent
      cases absent
    unfold DiskQueue.activeScan
    rw [offsetIn_zero (offset_of_moveOrEmpty moved), Cursor.offsetIn, if_neg other]
    exact ⟨rfl, id⟩
  | record file payload found parsed =>
    refine ⟨rfl, ?_⟩
    intro next moved
    cases moved
    unfold DiskQueue.activeScan Cursor.offsetIn
    by_cases here : cursor.segmentId = queue.activeSegmentId
    · have content : queue.activeFile = file := by
        rw [here, topped.find?_active] at found
        exact Option.some.inj found
      rw [if_pos here, if_pos here, content, scan_record parsed, List.drop_drop, Nat.add_assoc]
      refine ⟨rfl, fun _ => ?_⟩
      simpa [Nat.add_assoc] using record_fits parsed
    · rw [if_neg here, if_neg here]
      exact ⟨rfl, id⟩
  | finished file found parsed active => exact ⟨rfl, fun next moved => by cases moved⟩
  | leave file found parsed older =>
    refine ⟨rfl, ?_⟩
    intro next moved
    unfold DiskQueue.activeScan
    rw [offsetIn_zero (offset_of_moveOrEmpty moved), outside older]
    exact ⟨rfl, id⟩
  | quarantine file suffix reason found parsed free older =>
    have content := activeFile_setAside suffix reason found older
    refine ⟨content, ?_⟩
    intro next moved
    unfold DiskQueue.activeScan
    rw [content, offsetIn_zero (offset_of_moveOrEmpty moved), outside older]
    exact ⟨rfl, id⟩
  | replace file suffix reason found parsed free active room =>
    have grown : cursor.segmentId + 1 = queue.activeSegmentId := same
    exact absurd grown (by omega)

/-- The active segment is the last one while an older one is renamed aside, -/
theorem setAside (topped : queue.Topped) {id : Nat} {file : SegmentFile} (suffix : Nat) (reason : String)
    (found : queue.dir.segments.find? id = some file) (older : id < queue.activeSegmentId) :
    (queue.setAside id suffix file reason).Topped := by
  obtain ⟨before, listing⟩ := topped.entries_eq
  refine ⟨⟨before.filter (fun entry => entry.1 ≠ id), queue.activeFile, ?_⟩, topped.idFits⟩
  rw [setAside_segments found, OrderedMap.erase_entries, listing, List.filter_append]
  simp [older.ne', DiskQueue.setAside]

/-- while it is itself renamed aside and replaced, -/
theorem replaced (topped : queue.Topped) {file : SegmentFile} (suffix : Nat) (reason : String)
    (found : queue.dir.segments.find? queue.activeSegmentId = some file)
    (room : queue.activeSegmentId < u64Max) :
    ((queue.setAside queue.activeSegmentId suffix file reason).startSegment
      (queue.activeSegmentId + 1)).Topped :=
  ⟨⟨_, _, topped.replaced_entries suffix reason found⟩, room⟩

/-- and while the segments before a cursor are deleted. -/
theorem committed (topped : queue.Topped) (bound : cursor.segmentId ≤ queue.activeSegmentId) :
    (queue.committed cursor).Topped := by
  obtain ⟨older, listing, -⟩ := topped.since_eq bound
  exact ⟨⟨older, queue.activeFile, listing⟩, topped.idFits⟩

end DiskQueue.Topped

namespace DiskQueue.Shaped

variable {queue later : DiskQueue} {cursor : Cursor}

/-- Where reading goes on behind a segment there is still a segment of the queue. -/
theorem within_above (shaped : queue.Shaped) (within : queue.Within cursor) {next : Cursor}
    (moved : (moveOrEmpty ((queue.dir.segments.above cursor.segmentId).head?.map
      (fun entry => ⟨entry.1, 0⟩))).target = some next) : queue.Within next := by
  cases listing : queue.dir.segments.above cursor.segmentId with
  | nil => simp [listing, moveOrEmpty, ReadStep.target] at moved
  | cons head rest =>
    simp only [listing, List.head?_cons, Option.map_some, moveOrEmpty, ReadStep.target,
      Option.some.injEq] at moved
    subst moved
    have member : head ∈ queue.dir.segments.above cursor.segmentId := by simp [listing]
    obtain ⟨inside, above⟩ := List.mem_filter.mp member
    have later : cursor.segmentId < head.1 := by simpa using above
    exact ⟨within.1.trans later.le, shaped.topped.le_active inside, Nat.zero_le _⟩

theorem free_suffix (shaped : queue.Shaped) {id : Nat} {file : SegmentFile}
    (found : queue.dir.segments.find? id = some file) :
    ∃ suffix, corruptSegmentSuffix queue.dir id = some suffix := by
  apply corruptSegmentSuffix_of_few
  have unused : queue.dir.corrupt.filter (fun other => other.id = id) = [] := by
    apply List.filter_eq_nil_iff.mpr
    intro other member same
    have absent := (shaped.retired other member).2
    rw [of_decide_eq_true same, found] at absent
    cases absent
  rw [Directory.quarantines, unused]
  decide

/-- An id on disk has not been renamed aside, so renaming it keeps the names distinct. -/
theorem distinct_renamed (shaped : queue.Shaped) {id suffix : Nat} {file : SegmentFile}
    (found : queue.dir.segments.find? id = some file) :
    (queue.dir.corrupt ++ [CorruptFile.mk id suffix file.bytes]).Pairwise
      (fun first second => first.id ≠ second.id) := by
  refine List.pairwise_append.mpr ⟨shaped.distinct, List.pairwise_singleton _ _, ?_⟩
  intro other member new inside same
  rw [List.mem_singleton.mp inside] at same
  have absent := (shaped.retired other member).2
  rw [same, found] at absent
  cases absent

/-- Renaming an older segment aside keeps the shape. -/
theorem setAside (shaped : queue.Shaped) {id : Nat} {file : SegmentFile} (suffix : Nat)
    (reason : String) (found : queue.dir.segments.find? id = some file)
    (older : id < queue.activeSegmentId) : (queue.setAside id suffix file reason).Shaped := by
  have segments : (queue.setAside id suffix file reason).dir.segments =
      queue.dir.segments.erase id := setAside_segments found
  have corrupt : (queue.setAside id suffix file reason).dir.corrupt =
      queue.dir.corrupt ++ [⟨id, suffix, file.bytes⟩] := by
    simp [DiskQueue.setAside, Directory.renameCorrupt, Directory.writeReason, found]
  refine ⟨shaped.topped.setAside suffix reason found older, shaped.within, shaped.positive, ?_, ?_⟩
  · intro other member
    rw [corrupt] at member
    rw [segments, OrderedMap.find?_erase]
    rcases List.mem_append.mp member with old | new
    · refine ⟨(shaped.retired other old).1, ?_⟩
      split_ifs
      · rfl
      · exact (shaped.retired other old).2
    · rw [List.mem_singleton.mp new]
      exact ⟨older, if_pos rfl⟩
  · rw [corrupt]
    exact shaped.distinct_renamed found

/-- So does renaming the active segment aside once its successor is there. -/
theorem replaced (shaped : queue.Shaped) {file : SegmentFile} (suffix : Nat) (reason : String)
    (found : queue.dir.segments.find? queue.activeSegmentId = some file)
    (room : queue.activeSegmentId < u64Max) :
    ((queue.setAside queue.activeSegmentId suffix file reason).startSegment
      (queue.activeSegmentId + 1)).Shaped := by
  have corrupt : ((queue.setAside queue.activeSegmentId suffix file reason).startSegment
      (queue.activeSegmentId + 1)).dir.corrupt =
        queue.dir.corrupt ++ [⟨queue.activeSegmentId, suffix, file.bytes⟩] := by
    simp [DiskQueue.startSegment, Directory.createSegment, DiskQueue.setAside,
      Directory.renameCorrupt, Directory.writeReason, found]
  refine ⟨shaped.topped.replaced suffix reason found room, ⟨le_rfl, Nat.le_succ_of_le shaped.within.2.1, shaped.within.2.2⟩,
    shaped.positive, ?_, ?_⟩
  · intro other member
    rw [corrupt] at member
    have segments : ((queue.setAside queue.activeSegmentId suffix file reason).startSegment
        (queue.activeSegmentId + 1)).dir.segments =
          (queue.dir.segments.erase queue.activeSegmentId).insert (queue.activeSegmentId + 1) .empty := by
      rw [DiskQueue.startSegment, Directory.createSegment]
      simp only [setAside_segments found]
    rw [segments, OrderedMap.find?_insert, OrderedMap.find?_erase]
    change other.id < queue.activeSegmentId + 1 ∧ _
    rcases List.mem_append.mp member with old | new
    · obtain ⟨below, absent⟩ := shaped.retired other old
      refine ⟨Nat.lt_succ_of_lt below, ?_⟩
      rw [if_neg (by omega), if_neg (by omega)]
      exact absent
    · rw [List.mem_singleton.mp new]
      exact ⟨Nat.lt_succ_self _, by simp⟩
  · rw [corrupt]
    exact shaped.distinct_renamed found

/-- One `read_step_at` keeps the shape and hands on a cursor of the queue. -/
theorem stepsTo (shaped : queue.Shaped) (within : queue.Within cursor) {step : ReadStep}
    (steps : StepsTo queue cursor step later) :
    later.Shaped ∧ later.cursor = queue.cursor ∧
      ∀ next, step.target = some next → later.Within next := by
  cases steps with
  | missing absent => exact ⟨shaped, rfl, fun next moved => shaped.within_above within moved⟩
  | record file payload found parsed =>
    refine ⟨shaped, rfl, ?_⟩
    intro next moved
    simp only [ReadStep.target, Option.some.injEq] at moved
    subst moved
    exact ⟨within.1, within.2.1, (record_fits parsed).trans (len_le_u64Max file)⟩
  | finished file found parsed active =>
    refine ⟨shaped, rfl, ?_⟩
    intro next moved
    cases moved
  | leave file found parsed older =>
    exact ⟨shaped, rfl, fun next moved => shaped.within_above within moved⟩
  | quarantine file suffix reason found parsed free older =>
    refine ⟨shaped.setAside suffix reason found older, rfl, ?_⟩
    intro next moved
    exact shaped.within_above within moved
  | replace file suffix reason found parsed free active room =>
    have here := shaped.topped.segmentId_eq_active found active
    rw [here] at found room ⊢
    refine ⟨shaped.replaced suffix reason found room, rfl, ?_⟩
    intro next moved
    simp only [ReadStep.target, Option.some.injEq] at moved
    subst moved
    exact ⟨Nat.le_succ_of_le shaped.within.2.1, le_rfl, Nat.zero_le _⟩

/-- The only refused record that stops a reader is one in the last segment there can be. -/
theorem stuck (shaped : queue.Shaped) (halted : Stuck queue cursor) :
    queue.activeSegmentId = u64Max := by
  obtain ⟨file, found, -, taken | ⟨active, full⟩⟩ := halted
  · obtain ⟨suffix, free⟩ := shaped.free_suffix found
    rw [taken] at free
    cases free
  · have bound := shaped.topped.idFits
    have here := shaped.topped.segmentId_eq_active found active
    omega

/-- Committing a cursor brings the cursor file up to date and leaves nothing before it, also
where the cursor goes back. -/
theorem committed_at (shaped : queue.Shaped) (positive : 1 ≤ cursor.segmentId)
    (bound : cursor.segmentId ≤ queue.activeSegmentId) (fits : cursor.offset ≤ u64Max) :
    (queue.committed cursor).Sound := by
  refine ⟨⟨shaped.topped.committed bound, ⟨le_rfl, bound, fits⟩, positive, ?_, shaped.distinct⟩, ?_, rfl, rfl⟩
  · intro other member
    refine ⟨(shaped.retired other member).1, ?_⟩
    have absent := (queue.dir.segments.find?_eq_none_iff _).mp (shaped.retired other member).2
    rw [OrderedMap.find?_eq_none_iff]
    intro kept
    obtain ⟨entry, inside, same⟩ := List.mem_map.mp kept
    exact absent (same ▸ List.mem_map_of_mem (List.mem_filter.mp inside).1)
  · intro entry member
    exact of_decide_eq_true (List.mem_filter.mp member).2

theorem committed (shaped : queue.Shaped) (within : queue.Within cursor) : (queue.committed cursor).Sound :=
  shaped.committed_at (shaped.positive.trans within.1) within.2.1 within.2.2

/-- Nothing but the listing, the active id and the cursor matters; writing to a file that
is already listed keeps the shape. -/
theorem rewritten (shaped : queue.Shaped) {id : Nat} {old file : SegmentFile}
    (found : queue.dir.segments.find? id = some old)
    (dir : later.dir = { queue.dir with segments := queue.dir.segments.insert id file })
    (active : later.activeSegmentId = queue.activeSegmentId)
    (cursor : later.cursor = queue.cursor) : later.Shaped := by
  have bound : id ≤ queue.activeSegmentId :=
    shaped.topped.le_active ((queue.dir.segments.find?_eq_some_iff _ _).mp found)
  refine ⟨⟨?_, active ▸ shaped.topped.idFits⟩, ?_, cursor ▸ shaped.positive, ?_, ?_⟩
  · have top : ∃ top, later.dir.segments.find? later.activeSegmentId = some top := by
      rw [dir, active, OrderedMap.find?_insert]
      split_ifs
      · exact ⟨file, rfl⟩
      · exact ⟨_, shaped.topped.find?_active⟩
    obtain ⟨top, active_found⟩ := top
    refine ⟨_, top, later.dir.segments.entries_of_greatest active_found ?_⟩
    intro entry inside
    rw [dir] at inside
    rw [active]
    rcases OrderedMap.mem_place inside with rfl | kept
    · exact bound
    · exact shaped.topped.le_active kept
  · rw [DiskQueue.Within, active, cursor]
    exact shaped.within
  · rw [dir, active]
    intro other inside
    obtain ⟨below, absent⟩ := shaped.retired other inside
    refine ⟨below, ?_⟩
    rw [OrderedMap.find?_insert, if_neg, absent]
    rintro rfl
    rw [found] at absent
    cases absent
  · rw [dir]
    exact shaped.distinct

theorem startSegment (shaped : queue.Shaped) (room : queue.activeSegmentId < u64Max) :
    (queue.startSegment (queue.activeSegmentId + 1)).Shaped := by
  refine ⟨shaped.topped.startSegment room,
    ⟨le_rfl, Nat.le_succ_of_le shaped.within.2.1, shaped.within.2.2⟩, shaped.positive, ?_,
    shaped.distinct⟩
  intro other member
  obtain ⟨below, absent⟩ := shaped.retired other member
  refine ⟨Nat.lt_succ_of_lt below, ?_⟩
  simp only [DiskQueue.startSegment, Directory.createSegment]
  rw [OrderedMap.find?_insert, if_neg (by omega)]
  exact absent

theorem rotated (shaped : queue.Shaped) {payload : Bytes}
    (room : queue.rotates payload → queue.activeSegmentId < u64Max) :
    (queue.rotated payload).Shaped := by
  unfold DiskQueue.rotated
  split_ifs with rotates
  · exact shaped.startSegment (room rotates)
  · exact shaped

theorem enqueued (shaped : queue.Shaped) {payload : Bytes} {full : SegmentFile}
    (room : queue.rotates payload → queue.activeSegmentId < u64Max) :
    ((queue.rotated payload).appended payload full).Shaped :=
  (shaped.rotated room).rewritten (shaped.rotated room).topped.find?_active rfl rfl rfl

end DiskQueue.Shaped

namespace DiskQueue.Sound

variable {queue later : DiskQueue} {cursor : Cursor}

/-- A queue stays sound while its cursor and cursor file do and no segment appears before
the active one. -/
theorem of_shaped (sound : queue.Sound) (shaped : later.Shaped) (cursor : later.cursor = queue.cursor)
    (files : later.dir.cursor = queue.dir.cursor ∧ later.dir.cursorTmp = queue.dir.cursorTmp)
    (listed : ∀ entry ∈ later.dir.segments.entries,
      queue.activeSegmentId ≤ entry.1 ∨ entry ∈ queue.dir.segments.entries) : later.Sound := by
  refine ⟨shaped, ?_, ?_, ?_⟩
  · intro entry member
    rw [cursor]
    rcases listed entry member with new | old
    · exact sound.within.2.1.trans new
    · exact sound.floor entry old
  · rw [files.1, cursor]
    exact sound.cursorFile
  · rw [files.2]
    exact sound.cursorTmp

theorem setAside_files {id : Nat} {file : SegmentFile} (suffix : Nat) (reason : String)
    (found : queue.dir.segments.find? id = some file) :
    (queue.setAside id suffix file reason).dir.cursor = queue.dir.cursor ∧
      (queue.setAside id suffix file reason).dir.cursorTmp = queue.dir.cursorTmp := by
  simp [DiskQueue.setAside, Directory.renameCorrupt, Directory.writeReason, found]

/-- One `read_step_at` leaves the cursor file alone. -/
theorem stepsTo (sound : queue.Sound) (within : queue.Within cursor) {step : ReadStep}
    (steps : StepsTo queue cursor step later) : later.Sound := by
  obtain ⟨shaped, unmoved, -⟩ := sound.toShaped.stepsTo within steps
  cases steps with
  | missing => exact sound
  | record => exact sound
  | finished => exact sound
  | leave => exact sound
  | quarantine file suffix reason found parsed free older =>
    refine sound.of_shaped shaped unmoved (setAside_files suffix reason found) ?_
    intro entry member
    rw [setAside_segments found, OrderedMap.erase_entries] at member
    exact Or.inr (List.mem_filter.mp member).1
  | replace file suffix reason found parsed free active room =>
    refine sound.of_shaped shaped unmoved (setAside_files suffix reason found) ?_
    intro entry member
    simp only [DiskQueue.startSegment, Directory.createSegment, OrderedMap.insert_entries] at member
    rw [setAside_segments found, OrderedMap.erase_entries] at member
    rcases OrderedMap.mem_place member with rfl | old
    · exact Or.inl (Nat.le_succ_of_le (not_lt.mp active))
    · exact Or.inr (List.mem_filter.mp old).1

theorem rewritten (sound : queue.Sound) {id : Nat} {old file : SegmentFile}
    (found : queue.dir.segments.find? id = some old)
    (dir : later.dir = { queue.dir with segments := queue.dir.segments.insert id file })
    (active : later.activeSegmentId = queue.activeSegmentId)
    (cursor : later.cursor = queue.cursor) : later.Sound := by
  have bound : queue.cursor.segmentId ≤ id :=
    sound.floor _ ((queue.dir.segments.find?_eq_some_iff _ _).mp found)
  refine ⟨sound.toShaped.rewritten found dir active cursor, ?_, ?_, ?_⟩
  · intro entry inside
    rw [dir] at inside
    rw [cursor]
    rcases OrderedMap.mem_place inside with rfl | kept
    · exact bound
    · exact sound.floor entry kept
  · rw [dir, cursor]
    exact sound.cursorFile
  · rw [dir]
    exact sound.cursorTmp

theorem rotated (sound : queue.Sound) {payload : Bytes}
    (room : queue.rotates payload → queue.activeSegmentId < u64Max) :
    (queue.rotated payload).Sound := by
  have shaped := sound.toShaped.rotated room
  unfold DiskQueue.rotated at shaped ⊢
  split_ifs at shaped ⊢ with rotates
  · refine sound.of_shaped shaped rfl ⟨rfl, rfl⟩ ?_
    intro entry member
    rcases OrderedMap.mem_place member with rfl | old
    · exact Or.inl (Nat.le_succ _)
    · exact Or.inr old
  · exact sound

theorem enqueued (sound : queue.Sound) {payload : Bytes} {full : SegmentFile}
    (room : queue.rotates payload → queue.activeSegmentId < u64Max) :
    ((queue.rotated payload).appended payload full).Sound :=
  (sound.rotated room).rewritten (sound.rotated room).topped.find?_active rfl rfl rfl

theorem readCursor_eq (sound : queue.Sound) : readCursor queue.dir = some queue.cursor := by
  rw [readCursor, sound.cursorFile]
  exact parseCursor_cursorText (sound.within.2.1.trans sound.topped.idFits) sound.within.2.2

/-- Dropping the queue and opening the directory again finds the same queue; only the
byte counters are taken from the files anew. -/
theorem openDir_eq (sound : queue.Sound) (options : DiskQueueOptions) :
    DiskQueue.openDir queue.dir options = { queue with
      options := options
      activeSegmentBytes := queue.activeFile.len
      queuedBytes := totalSegmentBytes queue.dir queue.dir.segments.keys } := by
  have active := sound.topped.find?_active
  have dir : (queue.dir.writeCursorTmp (cursorText queue.cursor)).renameCursorTmp = queue.dir := by
    have file := sound.cursorFile
    have tmp := sound.cursorTmp
    cases dirCase : queue.dir with
    | mk path segments corrupt reasons cursor cursorTmp =>
      rw [dirCase] at file tmp
      simp only at file tmp
      rw [file, tmp]
      rfl
  simp only [DiskQueue.openDir, sound.topped.keys_max?, Option.getD_some, active, Option.isSome_some, if_true,
    sound.readCursor_eq, dir]

theorem reopened (sound : queue.Sound) (options : DiskQueueOptions) :
    (DiskQueue.openDir queue.dir options).Sound := by
  rw [sound.openDir_eq options]
  exact ⟨⟨⟨sound.topped.last, sound.topped.idFits⟩, sound.within, sound.positive, sound.retired,
    sound.distinct⟩, sound.floor, sound.cursorFile, sound.cursorTmp⟩

end DiskQueue.Sound

end TelemetryFabric.Buffer
