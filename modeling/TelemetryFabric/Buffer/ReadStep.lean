import TelemetryFabric.Buffer.Calm

/-!
Everything one `read_step_at` can do when no call fails, and the records that are
readable from a cursor on. Whatever bytes the segments hold, a record step takes the
first readable record, a move leaves the readable records as they are, and the queue
is reported empty only when nothing is readable.
-/

namespace TelemetryFabric.Buffer
open Library

/-- The queue after a segment has been renamed aside. -/
def DiskQueue.setAside (queue : DiskQueue) (id suffix : Nat) (file : SegmentFile) (reason : String) :
    DiskQueue :=
  { queue with
    dir := (queue.dir.renameCorrupt id suffix).writeReason id suffix (reason ++ "\n")
    queuedBytes := queue.queuedBytes - file.len }

theorem setAside_segments {queue : DiskQueue} {id suffix : Nat} {file : SegmentFile} {reason : String}
    (found : queue.dir.segments.find? id = some file) :
    (queue.setAside id suffix file reason).dir.segments = queue.dir.segments.erase id := by
  simp [DiskQueue.setAside, Directory.renameCorrupt, Directory.writeReason, found]

theorem activeFile_setAside {queue : DiskQueue} {id : Nat} {file : SegmentFile} (suffix : Nat) (reason : String)
    (found : queue.dir.segments.find? id = some file) (older : id < queue.activeSegmentId) :
    (queue.setAside id suffix file reason).activeFile = queue.activeFile := by
  have kept : (queue.dir.segments.erase id).find? queue.activeSegmentId =
      queue.dir.segments.find? queue.activeSegmentId := by
    rw [OrderedMap.find?_erase, if_neg older.ne']
  rw [DiskQueue.activeFile, setAside_segments found]
  exact congrArg (fun file => file.getD SegmentFile.empty) kept

theorem nextCursorAfter_calm (queue : DiskQueue) (current : Nat) :
    nextCursorAfter current ⟨queue, []⟩ =
      .ok ((queue.dir.segments.above current).head?.map (fun entry => ⟨entry.1, 0⟩)) ⟨queue, []⟩ := by
  simp only [nextCursorAfter, nextSegmentAfter, bind_apply, segmentIds_calm, pure_apply,
    OrderedMap.min?_keys_above, Option.map_map]
  rfl

theorem quarantineSegment_calm {queue : DiskQueue} {id suffix : Nat} {file : SegmentFile}
    (reason : String) (found : queue.dir.segments.find? id = some file)
    (free : corruptSegmentSuffix queue.dir id = some suffix) :
    quarantineSegment id reason ⟨queue, []⟩ = .ok () ⟨queue.setAside id suffix file reason, []⟩ := by
  have whole : String.ofList ((reason ++ "\n").toList.take (reason ++ "\n").length) = reason ++ "\n" := by
    rw [← String.length_toList, List.take_length, String.ofList_toList]
  unfold quarantineSegment
  simp only [bind_apply, getQueue_apply, found, probe_calm, free, call_calm, modifyQueue_apply]
  rw [write_calm rfl, whole]
  rfl

theorem quarantineSegment_calm_taken {queue : DiskQueue} {id : Nat} {file : SegmentFile}
    (reason : String) (found : queue.dir.segments.find? id = some file)
    (taken : corruptSegmentSuffix queue.dir id = none) :
    quarantineSegment id reason ⟨queue, []⟩ =
      .error (.raised (.corruptSegment
        ("could not allocate quarantine path for " ++ segmentPath queue.dir id))) ⟨queue, []⟩ := by
  simp [quarantineSegment, found, taken]

/-- A record the reader refuses. -/
def Parsed.refused : Parsed → Bool
  | .truncated | .mismatch => true
  | .endOfFile | .record _ => false

/-- What one `read_step_at` can do: the step it returns and the queue it leaves. -/
inductive StepsTo (queue : DiskQueue) (cursor : Cursor) : ReadStep → DiskQueue → Prop where
  | missing (absent : queue.dir.segments.find? cursor.segmentId = none) :
      StepsTo queue cursor (moveOrEmpty ((queue.dir.segments.above cursor.segmentId).head?.map
        (fun entry => ⟨entry.1, 0⟩))) queue
  | record (file : SegmentFile) (payload : Bytes)
      (found : queue.dir.segments.find? cursor.segmentId = some file)
      (parsed : parseRecord (file.bytes.drop cursor.offset) = .record payload) :
      StepsTo queue cursor (.record payload
        ⟨cursor.segmentId, cursor.offset + recordHeaderLen + payload.length⟩) queue
  | finished (file : SegmentFile)
      (found : queue.dir.segments.find? cursor.segmentId = some file)
      (parsed : parseRecord (file.bytes.drop cursor.offset) = .endOfFile)
      (active : ¬ cursor.segmentId < queue.activeSegmentId) : StepsTo queue cursor .empty queue
  | leave (file : SegmentFile)
      (found : queue.dir.segments.find? cursor.segmentId = some file)
      (parsed : parseRecord (file.bytes.drop cursor.offset) = .endOfFile)
      (older : cursor.segmentId < queue.activeSegmentId) :
      StepsTo queue cursor (moveOrEmpty ((queue.dir.segments.above cursor.segmentId).head?.map
        (fun entry => ⟨entry.1, 0⟩))) queue
  | quarantine (file : SegmentFile) (suffix : Nat) (reason : String)
      (found : queue.dir.segments.find? cursor.segmentId = some file)
      (parsed : (parseRecord (file.bytes.drop cursor.offset)).refused = true)
      (free : corruptSegmentSuffix queue.dir cursor.segmentId = some suffix)
      (older : cursor.segmentId < queue.activeSegmentId) :
      StepsTo queue cursor (moveOrEmpty ((queue.dir.segments.above cursor.segmentId).head?.map
        (fun entry => ⟨entry.1, 0⟩))) (queue.setAside cursor.segmentId suffix file reason)
  | replace (file : SegmentFile) (suffix : Nat) (reason : String)
      (found : queue.dir.segments.find? cursor.segmentId = some file)
      (parsed : (parseRecord (file.bytes.drop cursor.offset)).refused = true)
      (free : corruptSegmentSuffix queue.dir cursor.segmentId = some suffix)
      (active : ¬ cursor.segmentId < queue.activeSegmentId) (room : cursor.segmentId < u64Max) :
      StepsTo queue cursor (.move ⟨cursor.segmentId + 1, 0⟩)
        ((queue.setAside cursor.segmentId suffix file reason).startSegment (cursor.segmentId + 1))

/-- Why a `read_step_at` can return an error although no call fails: a refused record in
a segment that cannot be renamed aside or replaced. -/
def Stuck (queue : DiskQueue) (cursor : Cursor) : Prop :=
  ∃ file, queue.dir.segments.find? cursor.segmentId = some file ∧
    (parseRecord (file.bytes.drop cursor.offset)).refused = true ∧
    (corruptSegmentSuffix queue.dir cursor.segmentId = none ∨
      ¬ cursor.segmentId < queue.activeSegmentId ∧ ¬ cursor.segmentId < u64Max)

/-- A `read_step_at` that returns this error has changed nothing unless it has renamed the
last segment there can be. -/
structure StuckAt (queue : DiskQueue) (cursor : Cursor) (later : Session) : Prop where
  stuck : Stuck queue cursor
  unchanged : corruptSegmentSuffix queue.dir cursor.segmentId = none → later = ⟨queue, []⟩

theorem quarantineAndAdvance_calm {queue : DiskQueue} {cursor : Cursor} {file : SegmentFile}
    (reason : String) (found : queue.dir.segments.find? cursor.segmentId = some file)
    (parsed : (parseRecord (file.bytes.drop cursor.offset)).refused = true) :
    (∃ step later, quarantineAndAdvance cursor.segmentId reason ⟨queue, []⟩ = .ok step ⟨later, []⟩ ∧
      StepsTo queue cursor step later) ∨
    (∃ message later, quarantineAndAdvance cursor.segmentId reason ⟨queue, []⟩ =
      .error (.raised (.corruptSegment message)) later ∧ StuckAt queue cursor later) := by
  cases free : corruptSegmentSuffix queue.dir cursor.segmentId with
  | none =>
    refine Or.inr ⟨"could not allocate quarantine path for " ++ segmentPath queue.dir cursor.segmentId,
      ⟨queue, []⟩, ?_, ⟨file, found, parsed, Or.inl free⟩, fun _ => rfl⟩
    simp only [quarantineAndAdvance, bind_apply, quarantineSegment_calm_taken reason found free]
  | some suffix =>
    have aside := quarantineSegment_calm reason found free
    have active : (queue.setAside cursor.segmentId suffix file reason).activeSegmentId =
        queue.activeSegmentId := rfl
    by_cases older : cursor.segmentId < queue.activeSegmentId
    · refine Or.inl ⟨_, _, ?_, StepsTo.quarantine file suffix reason found parsed free older⟩
      have behind : (queue.setAside cursor.segmentId suffix file reason).dir.segments.above
          cursor.segmentId = queue.dir.segments.above cursor.segmentId := by
        rw [setAside_segments found, OrderedMap.above_erase]
      simp only [quarantineAndAdvance, bind_apply, aside, getQueue_apply, active]
      rw [if_neg (not_le.mpr older)]
      simp only [bind_apply, nextCursorAfter_calm, pure_apply, behind]
    · by_cases room : cursor.segmentId < u64Max
      · refine Or.inl ⟨_, _, ?_, StepsTo.replace file suffix reason found parsed free older room⟩
        simp only [quarantineAndAdvance, bind_apply, aside, getQueue_apply, active]
        rw [if_pos (not_lt.mp older), if_pos room]
        rfl
      · refine Or.inr ⟨"segment id overflow", ⟨queue.setAside cursor.segmentId suffix file reason, []⟩,
          ?_, ⟨file, found, parsed, Or.inr ⟨older, room⟩⟩, fun none => by rw [free] at none; cases none⟩
        simp only [quarantineAndAdvance, bind_apply, aside, getQueue_apply, active]
        rw [if_pos (not_lt.mp older), if_neg room]
        rfl

theorem readStepAt_calm (queue : DiskQueue) (cursor : Cursor) :
    (∃ step later, readStepAt cursor ⟨queue, []⟩ = .ok step ⟨later, []⟩ ∧
      StepsTo queue cursor step later) ∨
    (∃ message later, readStepAt cursor ⟨queue, []⟩ =
      .error (.raised (.corruptSegment message)) later ∧ StuckAt queue cursor later) := by
  cases found : queue.dir.segments.find? cursor.segmentId with
  | none =>
    refine Or.inl ⟨_, _, ?_, StepsTo.missing found⟩
    simp only [readStepAt, bind_apply, getQueue_apply, found, nextCursorAfter_calm, pure_apply]
  | some file =>
    cases parsed : parseRecord (file.bytes.drop cursor.offset) with
    | endOfFile =>
      by_cases older : cursor.segmentId < queue.activeSegmentId
      · refine Or.inl ⟨_, _, ?_, StepsTo.leave file found parsed older⟩
        simp only [readStepAt, bind_apply, getQueue_apply, found, probe_calm, parsed, if_pos older,
          nextCursorAfter_calm, pure_apply]
      · refine Or.inl ⟨_, _, ?_, StepsTo.finished file found parsed older⟩
        simp only [readStepAt, bind_apply, getQueue_apply, found, probe_calm, parsed, if_neg older,
          pure_apply]
    | record payload =>
      refine Or.inl ⟨_, _, ?_, StepsTo.record file payload found parsed⟩
      simp only [readStepAt, bind_apply, getQueue_apply, found, probe_calm, parsed, pure_apply]
    | truncated =>
      have refused : (parseRecord (file.bytes.drop cursor.offset)).refused = true := by rw [parsed]; rfl
      simpa only [readStepAt, bind_apply, getQueue_apply, found, probe_calm, parsed] using
        quarantineAndAdvance_calm _ found refused
    | mismatch =>
      have refused : (parseRecord (file.bytes.drop cursor.offset)).refused = true := by rw [parsed]; rfl
      simpa only [readStepAt, bind_apply, getQueue_apply, found, probe_calm, parsed] using
        quarantineAndAdvance_calm _ found refused

/-! ### Readable records -/

/-- The records of a run of segments, each with the segment it is in. Reading goes on
behind a segment only while it is older than the active one. -/
def aheadFrom (active : Nat) : Nat → List (Nat × SegmentFile) → List (Nat × Bytes)
  | _, [] => []
  | offset, (id, file) :: later =>
      (scan (file.bytes.drop offset)).1.map (fun payload => (id, payload)) ++
        if id < active then aheadFrom active 0 later else []

/-- The records from a cursor on. A cursor into a missing segment stands for the start of
the next one. -/
def DiskQueue.aheadAt (queue : DiskQueue) (cursor : Cursor) : List (Nat × Bytes) :=
  aheadFrom queue.activeSegmentId
    (if (queue.dir.segments.find? cursor.segmentId).isSome then cursor.offset else 0)
    (queue.dir.segments.since cursor.segmentId)

def DiskQueue.readableAt (queue : DiskQueue) (cursor : Cursor) : List Bytes :=
  (queue.aheadAt cursor).map Prod.snd

/-- The records still to be delivered, with their segments and without. -/
def DiskQueue.ahead (queue : DiskQueue) : List (Nat × Bytes) := queue.aheadAt queue.cursor

def DiskQueue.readable (queue : DiskQueue) : List Bytes := queue.readableAt queue.cursor

theorem aheadAt_found (queue : DiskQueue) (cursor : Cursor) {file : SegmentFile}
    (found : queue.dir.segments.find? cursor.segmentId = some file) :
    queue.aheadAt cursor =
      (scan (file.bytes.drop cursor.offset)).1.map (fun payload => (cursor.segmentId, payload)) ++
        if cursor.segmentId < queue.activeSegmentId then
          aheadFrom queue.activeSegmentId 0 (queue.dir.segments.above cursor.segmentId)
        else [] := by
  rw [DiskQueue.aheadAt, queue.dir.segments.since_of_find?_some found, found]
  rfl

theorem aheadAt_missing (queue : DiskQueue) (cursor : Cursor)
    (absent : queue.dir.segments.find? cursor.segmentId = none) :
    queue.aheadAt cursor =
      aheadFrom queue.activeSegmentId 0 (queue.dir.segments.above cursor.segmentId) := by
  rw [DiskQueue.aheadAt, queue.dir.segments.since_of_find?_none absent, absent]
  rfl

/-- What a step does to the records ahead of it. -/
def Reads (queue later : DiskQueue) (records : List (Nat × Bytes)) : ReadStep → Prop
  | .record payload next =>
      later = queue ∧ records = (next.segmentId, payload) :: queue.aheadAt next
  | .move next => records = later.aheadAt next
  | .empty => records = []

/-- Moving to the next segment there is skips nothing. -/
theorem reads_above (queue later : DiskQueue) (id : Nat) :
    Reads queue later (aheadFrom later.activeSegmentId 0 (later.dir.segments.above id))
      (moveOrEmpty ((later.dir.segments.above id).head?.map (fun entry => ⟨entry.1, 0⟩))) := by
  cases listing : later.dir.segments.above id with
  | nil => rfl
  | cons head rest =>
    have found := later.dir.segments.find?_head_above listing
    change _ = later.aheadAt ⟨head.1, 0⟩
    rw [DiskQueue.aheadAt, found, later.dir.segments.since_head_above listing, listing]
    rfl

theorem scan_refused {rest : Bytes} (refused : (parseRecord rest).refused = true) :
    (scan rest).1 = [] ∧ (scan rest).2.bad = true := by
  cases parsed : parseRecord rest with
  | endOfFile => simp [parsed, Parsed.refused] at refused
  | record payload => simp [parsed, Parsed.refused] at refused
  | truncated => simp [scan_truncated parsed, Tail.bad]
  | mismatch => simp [scan_mismatch parsed, Tail.bad]

/-- A record step takes the first readable record, a move keeps them all, and only an
exhausted queue is reported empty. -/
theorem StepsTo.reads {queue later : DiskQueue} {cursor : Cursor} {step : ReadStep}
    (steps : StepsTo queue cursor step later) :
    Reads queue later (queue.aheadAt cursor) step := by
  cases steps with
  | missing absent =>
    rw [aheadAt_missing queue cursor absent]
    exact reads_above queue queue cursor.segmentId
  | record file payload found parsed =>
    refine ⟨rfl, ?_⟩
    have behind : (file.bytes.drop cursor.offset).drop (recordHeaderLen + payload.length) =
        file.bytes.drop (cursor.offset + recordHeaderLen + payload.length) := by
      rw [List.drop_drop, Nat.add_assoc]
    have rest := aheadAt_found queue
      ⟨cursor.segmentId, cursor.offset + recordHeaderLen + payload.length⟩ found
    rw [aheadAt_found queue cursor found, scan_record parsed, behind, rest]
    rfl
  | finished file found parsed active =>
    change _ = []
    rw [aheadAt_found queue cursor found, scan_endOfFile parsed, if_neg active]
    rfl
  | leave file found parsed older =>
    rw [aheadAt_found queue cursor found, scan_endOfFile parsed, if_pos older, List.map_nil,
      List.nil_append]
    exact reads_above queue queue cursor.segmentId
  | quarantine file suffix reason found parsed free older =>
    have onward := reads_above queue (queue.setAside cursor.segmentId suffix file reason)
      cursor.segmentId
    rw [setAside_segments found, OrderedMap.above_erase] at onward
    rw [aheadAt_found queue cursor found, (scan_refused parsed).1, if_pos older, List.map_nil,
      List.nil_append]
    exact onward
  | replace file suffix reason found parsed free active room =>
    have fresh : ((queue.setAside cursor.segmentId suffix file reason).startSegment
        (cursor.segmentId + 1)).dir.segments.find? (cursor.segmentId + 1) = some .empty :=
      OrderedMap.find?_insert_self _ _ _
    change _ = DiskQueue.aheadAt _ ⟨cursor.segmentId + 1, 0⟩
    rw [aheadAt_found queue cursor found, (scan_refused parsed).1, if_neg active,
      aheadAt_found _ ⟨cursor.segmentId + 1, 0⟩ fresh]
    simp [DiskQueue.startSegment, SegmentFile.empty]

end TelemetryFabric.Buffer
