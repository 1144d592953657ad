import TelemetryFabric.Buffer.Sound

/-!
What `read_batch` and `commit_batch` do to the readable records of a queue of the right
shape: a read returns the first of them, and committing it leaves the rest. Only a refused
record in the segment with the largest id there is makes a read fail.
-/

namespace TelemetryFabric.Buffer
open Library

/-! ### Committing -/

/-- Removing the segments before a cursor changes nothing from there on. -/
theorem aheadAt_committed (queue : DiskQueue) {cursor next : Cursor}
    (bound : cursor.segmentId ≤ next.segmentId) :
    (queue.committed cursor).aheadAt next = queue.aheadAt next := by
  have listing : (queue.committed cursor).dir.segments.since next.segmentId =
      queue.dir.segments.since next.segmentId := by
    simp only [DiskQueue.committed, OrderedMap.since, List.filter_filter]
    apply List.filter_congr
    intro entry _
    simp only [Bool.and_eq_left_iff_imp, decide_eq_true_eq]
    exact bound.trans
  unfold DiskQueue.aheadAt
  rw [find?_committed queue bound, listing]
  rfl

theorem ahead_committed (queue : DiskQueue) (cursor : Cursor) :
    (queue.committed cursor).ahead = queue.aheadAt cursor :=
  aheadAt_committed queue le_rfl

/-! ### Reading -/

theorem parseRecord_nil : parseRecord [] = .endOfFile := rfl

/-- An empty active segment gives nothing but the end of the queue. -/
theorem StepsTo.of_fresh {queue later : DiskQueue} {cursor : Cursor} {step : ReadStep}
    (fresh : queue.AtFreshActive cursor) (steps : StepsTo queue cursor step later) :
    step = .empty ∧ later = queue := by
  obtain ⟨active, -, empty⟩ := fresh
  have nothing : ∀ file, queue.dir.segments.find? cursor.segmentId = some file →
      parseRecord (file.bytes.drop cursor.offset) = .endOfFile := by
    intro file found
    rw [empty] at found
    cases found
    simp [SegmentFile.empty, parseRecord_nil]
  cases steps with
  | missing absent => simp [empty] at absent
  | record file payload found parsed => simp [nothing file found] at parsed
  | finished file found parsed ended => exact ⟨rfl, rfl⟩
  | leave file found parsed older => exact absurd older active.not_gt
  | quarantine file suffix reason found parsed free older => exact absurd older active.not_gt
  | replace file suffix reason found parsed free ended room =>
    simp [nothing file found, Parsed.refused] at parsed

/-- Only the replacement of the active segment changes its id, and it moves there. -/
theorem StepsTo.active {queue later : DiskQueue} {cursor : Cursor} {step : ReadStep}
    (steps : StepsTo queue cursor step later) :
    later.activeSegmentId = queue.activeSegmentId ∨
      ∃ next, step = .move next ∧ queue.activeSegmentId < later.activeSegmentId ∧
        later.AtFreshActive next := by
  cases steps with
  | missing => exact Or.inl rfl
  | record => exact Or.inl rfl
  | finished => exact Or.inl rfl
  | leave => exact Or.inl rfl
  | quarantine => exact Or.inl rfl
  | replace file suffix reason found parsed free active room =>
    exact Or.inr ⟨_, rfl, Nat.lt_succ_of_le (not_lt.mp active), rfl, rfl,
      OrderedMap.find?_insert_self _ _ _⟩

/-- Only a commit moves the cursor. -/
theorem StepsTo.unmoved {queue later : DiskQueue} {cursor : Cursor} {step : ReadStep}
    (steps : StepsTo queue cursor step later) : later.cursor = queue.cursor := by
  cases steps <;> rfl

theorem moveOrEmpty_eq_empty {queue : DiskQueue} {id : Nat}
    (stopped : ReadStep.empty =
      moveOrEmpty ((queue.dir.segments.above id).head?.map (fun entry => ⟨entry.1, 0⟩))) :
    queue.dir.segments.above id = [] := by
  cases listing : queue.dir.segments.above id with
  | nil => rfl
  | cons head rest => simp [listing, moveOrEmpty] at stopped

/-- In a queue of the right shape the end is met in the active segment, which is left alone. -/
theorem DiskQueue.Shaped.at_end {queue later : DiskQueue} {cursor : Cursor} (shaped : queue.Shaped)
    (within : queue.Within cursor) (steps : StepsTo queue cursor .empty later) :
    later = queue ∧ cursor.segmentId = queue.activeSegmentId ∧
      parseRecord (queue.activeFile.bytes.drop cursor.offset) = .endOfFile := by
  have onward : cursor.segmentId < queue.activeSegmentId →
      queue.dir.segments.above cursor.segmentId ≠ [] := by
    intro older none
    have member := (queue.dir.segments.find?_eq_some_iff _ _).mp shaped.topped.find?_active
    have inside : (queue.activeSegmentId, queue.activeFile) ∈
        queue.dir.segments.above cursor.segmentId := List.mem_filter.mpr ⟨member, by simpa using older⟩
    rw [none] at inside
    cases inside
  generalize stopped : ReadStep.empty = step at steps
  cases steps with
  | missing absent =>
    have older : cursor.segmentId < queue.activeSegmentId := by
      refine lt_of_le_of_ne within.2.1 ?_
      intro here
      rw [here, shaped.topped.find?_active] at absent
      cases absent
    exact absurd (moveOrEmpty_eq_empty stopped) (onward older)
  | record => cases stopped
  | finished file found parsed active =>
    have here := shaped.topped.segmentId_eq_active found active
    rw [here, shaped.topped.find?_active] at found
    cases found
    exact ⟨rfl, here, parsed⟩
  | leave file found parsed older => exact absurd (moveOrEmpty_eq_empty stopped) (onward older)
  | quarantine file suffix reason found parsed free older =>
    exact absurd (moveOrEmpty_eq_empty stopped) (onward older)
  | replace => cases stopped

/-- A reader at a record boundary of the active segment stays at one. -/
theorem DiskQueue.Level.stepsTo {queue later : DiskQueue} {cursor next : Cursor} {step : ReadStep}
    (level : queue.Level cursor) (shaped : queue.Shaped) (steps : StepsTo queue cursor step later)
    (target : step.target = some next) : later.Level next := by
  rcases steps.active with same | ⟨other, rfl, -, fresh⟩
  · obtain ⟨content, tail⟩ := shaped.topped.activeScan_stepsTo steps same
    obtain ⟨scanned, fits⟩ := tail next target
    rw [DiskQueue.Level, scanned, content]
    exact ⟨fits level.1, level.2⟩
  · cases target
    apply DiskQueue.Level.of_start
    rw [Cursor.offsetIn, fresh.2.1, ite_self]

theorem DiskQueue.Level.committed {queue : DiskQueue} {cursor : Cursor} (level : queue.Level cursor)
    (bound : cursor.segmentId ≤ queue.activeSegmentId) : (queue.committed cursor).Level cursor :=
  level.congr (activeFile_committed queue bound) rfl

/-- The loop of `read_batch` after some turns: what it has and what it would still find
are together the records readable at the start. -/
structure BatchSoFar (queue current : DiskQueue) (cursor : Cursor) (commit : Bool)
    (batch : List Bytes) : Prop where
  shaped : current.Shaped
  sound : queue.Sound → current.Sound
  within : current.Within cursor
  unmoved : current.cursor = queue.cursor
  records : ∃ taken, taken.map Prod.snd = batch ∧ taken ++ current.aheadAt cursor = queue.ahead
  still : batch = [] → commit = false → cursor = queue.cursor
  active : current.activeSegmentId = queue.activeSegmentId ∨
    queue.activeSegmentId < current.activeSegmentId ∧ current.AtFreshActive cursor
  tail : current.activeSegmentId = queue.activeSegmentId →
    current.activeFile = queue.activeFile ∧
      (current.activeScan cursor).2 = (queue.activeScan queue.cursor).2 ∧
      (queue.cursor.offsetIn queue.activeSegmentId ≤ queue.activeFile.len →
        cursor.offsetIn queue.activeSegmentId ≤ queue.activeFile.len)

theorem BatchSoFar.keeps_active {queue current later : DiskQueue} {cursor : Cursor} {commit : Bool}
    {batch : List Bytes} {step : ReadStep} (sofar : BatchSoFar queue current cursor commit batch)
    (steps : StepsTo current cursor step later) (moves : step ≠ .empty) :
    later.activeSegmentId = queue.activeSegmentId ∨
      ∃ next, step = .move next ∧ queue.activeSegmentId < later.activeSegmentId ∧
        later.AtFreshActive next := by
  rcases sofar.active with same | ⟨-, fresh⟩
  · rw [← same]
    exact steps.active
  · exact absurd (steps.of_fresh fresh).1 moves

/-- The end of the active segment looks the same from every cursor the loop has passed. -/
theorem BatchSoFar.keeps_tail {queue current later : DiskQueue} {cursor next : Cursor} {commit : Bool}
    {batch : List Bytes} {step : ReadStep} (sofar : BatchSoFar queue current cursor commit batch)
    (steps : StepsTo current cursor step later) (target : step.target = some next)
    (same : later.activeSegmentId = queue.activeSegmentId) :
    later.activeFile = queue.activeFile ∧
      (later.activeScan next).2 = (queue.activeScan queue.cursor).2 ∧
      (queue.cursor.offsetIn queue.activeSegmentId ≤ queue.activeFile.len →
        next.offsetIn queue.activeSegmentId ≤ queue.activeFile.len) := by
  have unchanged : current.activeSegmentId = queue.activeSegmentId := by
    rcases sofar.active with kept | ⟨-, fresh⟩
    · exact kept
    · have stop := (steps.of_fresh fresh).1
      rw [stop] at target
      cases target
  obtain ⟨content, scanned⟩ := sofar.shaped.topped.activeScan_stepsTo steps (same.trans unchanged.symm)
  obtain ⟨contentBefore, before, fits⟩ := sofar.tail unchanged
  obtain ⟨tail, onward⟩ := scanned next target
  refine ⟨content.trans contentBefore, tail.trans before, ?_⟩
  intro start
  rw [unchanged, contentBefore, same] at onward
  exact onward (fits start)

theorem batchSoFar_invariant (queue : DiskQueue) (maxItems : Nat) :
    LoopInvariant maxItems (BatchSoFar queue) where
  record := by
    intro current cursor commit batch payload next later sofar _ steps
    obtain ⟨shaped, unmoved, within⟩ := sofar.shaped.stepsTo sofar.within steps
    have sound := fun start => (sofar.sound start).stepsTo sofar.within steps
    have active := sofar.keeps_active steps (by simp)
    obtain ⟨rfl, rest⟩ : later = current ∧
        current.aheadAt cursor = (next.segmentId, payload) :: current.aheadAt next := steps.reads
    obtain ⟨taken, batched, records⟩ := sofar.records
    refine ⟨shaped, sound, within next rfl, unmoved.trans sofar.unmoved, ?_, by simp, ?_,
      sofar.keeps_tail steps rfl⟩
    · refine ⟨taken ++ [(next.segmentId, payload)], ?_, ?_⟩
      · rw [List.map_append, batched]
        rfl
      · rw [← records, rest]
        simp
    · rcases active with same | ⟨other, moved, -⟩
      · exact Or.inl same
      · cases moved
  move := by
    intro current cursor commit batch next later sofar _ steps
    obtain ⟨shaped, unmoved, within⟩ := sofar.shaped.stepsTo sofar.within steps
    have sound := fun start => (sofar.sound start).stepsTo sofar.within steps
    have rest : current.aheadAt cursor = later.aheadAt next := steps.reads
    refine ⟨shaped, sound, within next rfl, unmoved.trans sofar.unmoved, ?_, by simp, ?_,
      sofar.keeps_tail steps rfl⟩
    · rw [← rest]
      exact sofar.records
    · rcases sofar.keeps_active steps (by simp) with same | ⟨other, moved, fresh⟩
      · exact Or.inl same
      · cases moved
        exact Or.inr fresh
  empty := by
    intro current cursor commit batch later sofar _ steps
    obtain rfl := (sofar.shaped.at_end sofar.within steps).1
    exact sofar

/-- A successful `read_batch`: the first readable records, with the rest behind the
cursor it would commit. -/
structure Took (queue : DiskQueue) (maxItems : Nat) (batch : PendingBatch) (later : DiskQueue) :
    Prop where
  shaped : later.Shaped
  sound : queue.Sound → later.Sound
  within : later.Within batch.nextCursor
  unmoved : later.cursor = queue.cursor
  taken : batch.payloads = (queue.ahead.take maxItems).map Prod.snd
  left : later.aheadAt batch.nextCursor = queue.ahead.drop maxItems
  still : batch.payloads = [] → batch.shouldCommit = false → batch.nextCursor = later.cursor
  tail : batch.payloads.length < maxItems → (later.activeScan later.cursor).2.bad = false
  level : queue.Level queue.cursor → later.Level batch.nextCursor ∧ later.Level later.cursor
  badEnd : (later.activeScan batch.nextCursor).2.bad = true →
    later.activeSegmentId = queue.activeSegmentId ∧ (queue.activeScan queue.cursor).2.bad = true
  endsClean : queue.EndsClean queue.cursor → later.EndsClean batch.nextCursor

/-- Behind a replaced active segment everything is still to be written. -/
theorem DiskQueue.AtFreshActive.empty {queue : DiskQueue} {cursor : Cursor}
    (fresh : queue.AtFreshActive cursor) :
    queue.activeFile = .empty ∧ cursor.offsetIn queue.activeSegmentId = 0 := by
  refine ⟨?_, ?_⟩
  · rw [DiskQueue.activeFile, fresh.1, fresh.2.2]
    rfl
  · rw [Cursor.offsetIn, fresh.2.1, ite_self]

theorem BatchSoFar.level {queue current : DiskQueue} {cursor : Cursor} {commit : Bool}
    {batch : List Bytes} (sofar : BatchSoFar queue current cursor commit batch)
    (start : queue.Level queue.cursor) : current.Level cursor := by
  rcases sofar.active with same | ⟨-, fresh⟩
  · obtain ⟨content, scanned, fits⟩ := sofar.tail same
    refine ⟨?_, ?_⟩
    · rw [same, content]
      exact fits start.1
    · rw [scanned, content]
      exact start.2
  · exact .of_start fresh.empty.2

theorem BatchSoFar.levelBack {queue current : DiskQueue} {cursor : Cursor} {commit : Bool}
    {batch : List Bytes} (sofar : BatchSoFar queue current cursor commit batch)
    (bound : queue.cursor.segmentId ≤ queue.activeSegmentId)
    (start : queue.Level queue.cursor) : current.Level current.cursor := by
  rw [sofar.unmoved]
  rcases sofar.active with same | ⟨grown, -⟩
  · exact start.congr (sofar.tail same).1 (by rw [same])
  · exact .of_start (if_neg (by omega))

theorem BatchSoFar.badEnd {queue current : DiskQueue} {cursor : Cursor} {commit : Bool}
    {batch : List Bytes} (sofar : BatchSoFar queue current cursor commit batch)
    (bad : (current.activeScan cursor).2.bad = true) :
    current.activeSegmentId = queue.activeSegmentId ∧ (queue.activeScan queue.cursor).2.bad = true := by
  rcases sofar.active with same | ⟨-, fresh⟩
  · exact ⟨same, (sofar.tail same).2.1 ▸ bad⟩
  · rw [DiskQueue.activeScan, fresh.empty.1] at bad
    simp [SegmentFile.empty, Tail.bad] at bad

theorem BatchSoFar.endsClean {queue current : DiskQueue} {cursor : Cursor} {commit : Bool}
    {batch : List Bytes} (sofar : BatchSoFar queue current cursor commit batch)
    (start : queue.EndsClean queue.cursor) : current.EndsClean cursor := by
  rcases sofar.active with same | ⟨-, fresh⟩
  · obtain ⟨content, scanned, fits⟩ := sofar.tail same
    refine ⟨?_, scanned.trans start.2⟩
    rw [same, content]
    exact fits start.1
  · rw [DiskQueue.EndsClean, DiskQueue.activeScan, fresh.empty.1, fresh.empty.2]
    exact ⟨Nat.zero_le _, rfl⟩

/-- Once the loop has met the end of the queue, the active segment ends in no refused record. -/
theorem BatchSoFar.tail_at_end {queue current : DiskQueue} {cursor : Cursor} {commit : Bool}
    {batch : List Bytes} (sofar : BatchSoFar queue current cursor commit batch)
    (active : cursor.segmentId = current.activeSegmentId)
    (parsed : parseRecord (current.activeFile.bytes.drop cursor.offset) = .endOfFile) :
    (current.activeScan current.cursor).2.bad = false := by
  rcases sofar.active with same | ⟨-, fresh⟩
  · obtain ⟨content, scanned, -⟩ := sofar.tail same
    have again : current.activeScan current.cursor = queue.activeScan queue.cursor := by
      rw [DiskQueue.activeScan, Cursor.offsetIn, content, sofar.unmoved, same]
      rfl
    rw [again, ← scanned, DiskQueue.activeScan, Cursor.offsetIn, if_pos active,
      scan_endOfFile parsed]
    split_ifs <;> rfl
  · rw [DiskQueue.activeScan, fresh.empty.1]
    simp [SegmentFile.empty, Tail.bad]

/-- Where a reader is stuck there is nothing behind the refused record. -/
theorem DiskQueue.Shaped.at_stuck {queue : DiskQueue} {cursor : Cursor} (shaped : queue.Shaped)
    (stuck : Stuck queue cursor) :
    queue.activeSegmentId = u64Max ∧ queue.aheadAt cursor = [] ∧
      (queue.activeScan cursor).2.bad = true := by
  have full := shaped.stuck stuck
  obtain ⟨file, found, refused, taken | ⟨active, -⟩⟩ := stuck
  · obtain ⟨suffix, free⟩ := shaped.free_suffix found
    rw [taken] at free
    cases free
  · have here := shaped.topped.segmentId_eq_active found active
    have content : queue.activeFile = file := by
      rw [DiskQueue.activeFile, ← here, found]
      rfl
    obtain ⟨none, bad⟩ := scan_refused refused
    refine ⟨full, ?_, ?_⟩
    · rw [aheadAt_found queue cursor found, none, if_neg active]
      rfl
    · rw [DiskQueue.activeScan, Cursor.offsetIn, if_pos here, content]
      exact bad

theorem not_stuck_of_fresh {queue : DiskQueue} {cursor : Cursor} (fresh : queue.AtFreshActive cursor) :
    ¬ Stuck queue cursor := by
  rintro ⟨file, found, refused, -⟩
  rw [fresh.2.2] at found
  cases found
  simp [SegmentFile.empty, parseRecord_nil, Parsed.refused] at refused

theorem readBatch_takes {queue : DiskQueue} (shaped : queue.Shaped) {maxItems : Nat} (fits : maxItems ≤ maxBatchItems) :
    (∃ batch later, readBatch maxItems ⟨queue, []⟩ = .ok batch ⟨later, []⟩ ∧
      Took queue maxItems batch later) ∨
    (∃ message later, readBatch maxItems ⟨queue, []⟩ =
      .error (.raised (.corruptSegment message)) later ∧ queue.activeSegmentId = u64Max ∧
        queue.readable.length < maxItems ∧ (queue.activeScan queue.cursor).2.bad = true) := by
  have start : BatchSoFar queue queue queue.cursor false [] :=
    ⟨shaped, id, shaped.within, rfl, ⟨[], rfl, rfl⟩, fun _ _ => rfl, Or.inl rfl, fun _ => ⟨rfl, rfl, id⟩⟩
  rcases readBatch_rule (batchSoFar_invariant queue maxItems) start fits with
    ⟨batch, later, done, sofar, size, ended⟩ | ⟨message, later, failed, current, cursor, commit, batch,
      sofar, wanted, stuck⟩
  · refine Or.inl ⟨batch, later, done, sofar.shaped, sofar.sound, sofar.within, sofar.unmoved, ?_, ?_,
      ?_, ?_, fun level => ⟨sofar.level level, sofar.levelBack shaped.within.2.1 level⟩, sofar.badEnd,
      sofar.endsClean⟩
    · obtain ⟨taken, batched, records⟩ := sofar.records
      rcases ended with full | ⟨before, sofarBefore, last⟩
      · have count : taken.length = maxItems := by rw [← full, ← batched, List.length_map]
        rw [← records, ← count, List.take_left, batched]
      · obtain rfl := (sofarBefore.shaped.at_end sofarBefore.within last).1
        have all : later.aheadAt batch.nextCursor = [] := last.reads
        rw [← records, all, List.append_nil, List.take_of_length_le, batched]
        rwa [← batched, List.length_map] at size
    · obtain ⟨taken, batched, records⟩ := sofar.records
      rcases ended with full | ⟨before, sofarBefore, last⟩
      · have count : taken.length = maxItems := by rw [← full, ← batched, List.length_map]
        rw [← records, ← count, List.drop_left]
      · obtain rfl := (sofarBefore.shaped.at_end sofarBefore.within last).1
        have all : later.aheadAt batch.nextCursor = [] := last.reads
        rw [← records, all, List.append_nil, List.drop_of_length_le]
        rwa [← batched, List.length_map] at size
    · intro none idle
      rw [sofar.unmoved]
      exact sofar.still none idle
    · intro short
      rcases ended with full | ⟨before, sofarBefore, last⟩
      · omega
      · obtain ⟨rfl, active, parsed⟩ := sofarBefore.shaped.at_end sofarBefore.within last
        exact sofar.tail_at_end active parsed
  · refine Or.inr ⟨message, later, failed, ?_⟩
    obtain ⟨full, none, bad⟩ := sofar.shaped.at_stuck stuck.stuck
    rcases sofar.active with same | ⟨-, fresh⟩
    · refine ⟨same.symm.trans full, ?_, ?_⟩
      · obtain ⟨taken, batched, records⟩ := sofar.records
        rw [DiskQueue.readable, DiskQueue.readableAt, List.length_map]
        rw [none, List.append_nil] at records
        rw [← batched, List.length_map, records] at wanted
        exact wanted
      · rw [← (sofar.tail same).2.1]
        exact bad
    · exact absurd stuck.stuck (not_stuck_of_fresh fresh)

theorem Took.payloads {queue later : DiskQueue} {maxItems : Nat} {batch : PendingBatch}
    (took : Took queue maxItems batch later) : batch.payloads = queue.readable.take maxItems := by
  rw [took.taken, List.map_take]
  rfl

theorem Took.rest {queue later : DiskQueue} {maxItems : Nat} {batch : PendingBatch}
    (took : Took queue maxItems batch later) :
    later.readableAt batch.nextCursor = queue.readable.drop maxItems := by
  rw [DiskQueue.readableAt, took.left, List.map_drop]
  rfl

theorem Took.of_readBatch {queue later : DiskQueue} {maxItems : Nat} {batch : PendingBatch}
    (shaped : queue.Shaped) (read : readBatch maxItems ⟨queue, []⟩ = .ok batch ⟨later, []⟩) :
    Took queue maxItems batch later := by
  rcases readBatch_takes shaped (fits_of_readBatch read) with ⟨other, last, done, took⟩ | ⟨message, last, failed, -⟩
  · rw [read] at done
    cases done
    exact took
  · rw [read] at failed
    cases failed

/-- The queue once a batch has been committed. -/
def DiskQueue.afterCommit (queue : DiskQueue) (batch : PendingBatch) : DiskQueue :=
  if batch.payloads.length > 0 ∨ batch.shouldCommit then queue.committed batch.nextCursor else queue

theorem commitBatch_eq (queue : DiskQueue) (batch : PendingBatch) :
    commitBatch batch ⟨queue, []⟩ = .ok batch.payloads.length ⟨queue.afterCommit batch, []⟩ :=
  commitBatch_calm queue batch

/-- A batch that is not worth a commit ends where the cursor is. -/
theorem ahead_afterCommit {queue : DiskQueue} {batch : PendingBatch}
    (still : batch.payloads = [] → batch.shouldCommit = false → batch.nextCursor = queue.cursor) :
    (queue.afterCommit batch).ahead = queue.aheadAt batch.nextCursor := by
  unfold DiskQueue.afterCommit
  split_ifs with moves
  · exact ahead_committed queue batch.nextCursor
  · obtain ⟨none, idle⟩ := not_or.mp moves
    rw [still (List.length_eq_zero_iff.mp (by omega)) (by simpa using idle)]
    rfl

theorem readable_afterCommit {queue : DiskQueue} {batch : PendingBatch}
    (still : batch.payloads = [] → batch.shouldCommit = false → batch.nextCursor = queue.cursor) :
    (queue.afterCommit batch).readable = queue.readableAt batch.nextCursor :=
  congrArg (List.map Prod.snd) (ahead_afterCommit still)

theorem DiskQueue.Shaped.afterCommit {queue : DiskQueue} {batch : PendingBatch} (shaped : queue.Shaped)
    (within : queue.Within batch.nextCursor) : (queue.afterCommit batch).Shaped := by
  unfold DiskQueue.afterCommit
  split_ifs
  · exact (shaped.committed within).toShaped
  · exact shaped

theorem DiskQueue.Sound.afterCommit {queue : DiskQueue} {batch : PendingBatch} (sound : queue.Sound)
    (within : queue.Within batch.nextCursor) : (queue.afterCommit batch).Sound := by
  unfold DiskQueue.afterCommit
  split_ifs
  · exact sound.toShaped.committed within
  · exact sound

/-! ### Cycles -/

/-- One `read_batch` with its `commit_batch`; what it hands out is what was read. -/
def cycle (maxItems : Nat) : QueueM (List Bytes) := do
  let batch ← readBatch maxItems
  let _ ← commitBatch batch
  return batch.payloads

/-- A refused record in the last segment there can be: nothing can take its place. -/
def DiskQueue.Exhausted (queue : DiskQueue) : Prop :=
  queue.activeSegmentId = u64Max ∧ (queue.activeScan queue.cursor).2.bad = true

/-- Committing leaves the active segment and what is read of it alone. -/
theorem activeScan_afterCommit {queue : DiskQueue} {batch : PendingBatch}
    (within : queue.Within batch.nextCursor)
    (still : batch.payloads = [] → batch.shouldCommit = false → batch.nextCursor = queue.cursor) :
    (queue.afterCommit batch).activeSegmentId = queue.activeSegmentId ∧
      (queue.afterCommit batch).activeFile = queue.activeFile ∧
      (queue.afterCommit batch).cursor = batch.nextCursor := by
  unfold DiskQueue.afterCommit
  split_ifs with moves
  · exact ⟨rfl, activeFile_committed queue within.2.1, rfl⟩
  · obtain ⟨none, idle⟩ := not_or.mp moves
    exact ⟨rfl, rfl, (still (List.length_eq_zero_iff.mp (by omega)) (by simpa using idle)).symm⟩

theorem cycle_takes {queue : DiskQueue} (shaped : queue.Shaped) {maxItems : Nat} (fits : maxItems ≤ maxBatchItems) :
    (∃ later, cycle maxItems ⟨queue, []⟩ = .ok (queue.readable.take maxItems) ⟨later, []⟩ ∧
      later.Shaped ∧ later.readable = queue.readable.drop maxItems ∧
      (later.Exhausted → queue.Exhausted)) ∨
    (∃ message later, cycle maxItems ⟨queue, []⟩ = .error (.raised (.corruptSegment message)) later ∧
      queue.Exhausted) := by
  rcases readBatch_takes shaped fits with
    ⟨batch, later, done, took⟩ | ⟨message, later, failed, full, -, bad⟩
  · refine Or.inl ⟨later.afterCommit batch, ?_, took.shaped.afterCommit took.within, ?_, ?_⟩
    · simp only [cycle, bind_apply, done, commitBatch_eq, pure_apply, took.payloads]
    · rw [readable_afterCommit took.still, took.rest]
    · rintro ⟨full, bad⟩
      obtain ⟨active, content, cursor⟩ := activeScan_afterCommit took.within took.still
      rw [DiskQueue.activeScan, active, content, cursor] at bad
      obtain ⟨same, badBefore⟩ := took.badEnd bad
      exact ⟨same ▸ active ▸ full, badBefore⟩
  · refine Or.inr ⟨message, later, ?_, full, bad⟩
    simp only [cycle, bind_apply, failed]

/-- Cycles of the given batch sizes, one after the other. -/
def cycles : List Nat → QueueM (List Bytes)
  | [] => pure []
  | maxItems :: rest => do
      let first ← cycle maxItems
      let later ← cycles rest
      return first ++ later

/-- Cycles return the readable records in order, as many as they ask for. -/
theorem cycles_take {queue : DiskQueue} (shaped : queue.Shaped) (usable : ¬ queue.Exhausted)
    {sizes : List Nat} (fit : ∀ size ∈ sizes, size ≤ maxBatchItems) :
    ∃ later, cycles sizes ⟨queue, []⟩ = .ok (queue.readable.take sizes.sum) ⟨later, []⟩ ∧
      later.Shaped ∧ ¬ later.Exhausted ∧ later.readable = queue.readable.drop sizes.sum := by
  induction sizes generalizing queue with
  | nil => exact ⟨queue, rfl, shaped, usable, rfl⟩
  | cons maxItems rest ih =>
    obtain ⟨fits, others⟩ := List.forall_mem_cons.mp fit
    rcases cycle_takes shaped fits with ⟨middle, done, middleShaped, left, kept⟩ | ⟨_, _, _, full⟩
    · obtain ⟨later, finished, laterShaped, stillUsable, remaining⟩ :=
        ih middleShaped (fun full => usable (kept full)) others
      refine ⟨later, ?_, laterShaped, stillUsable, ?_⟩
      · simp only [cycles, bind_apply, done, finished, pure_apply]
        rw [left, List.sum_cons, List.take_add]
      · rw [remaining, left, List.drop_drop, List.sum_cons]
    · exact absurd full usable

theorem fit_of_cycles {sizes : List Nat} {session later : Session} {payloads : List Bytes}
    (done : cycles sizes session = .ok payloads later) : ∀ size ∈ sizes, size ≤ maxBatchItems := by
  induction sizes generalizing session later payloads with
  | nil => exact fun size member => absurd member List.not_mem_nil
  | cons maxItems rest ih =>
    rw [cycles, bind_apply] at done
    cases first : cycle maxItems session with
    | error halt middle =>
      rw [first] at done
      cases done
    | ok taken middle =>
      rw [first] at done
      simp only [bind_apply] at done
      have fits : maxItems ≤ maxBatchItems := by
        by_contra large
        rw [cycle, bind_apply, readBatch_panics (Nat.not_le.mp large)] at first
        cases first
      cases others : cycles rest middle with
      | error halt last =>
        rw [others] at done
        cases done
      | ok left last => exact List.forall_mem_cons.mpr ⟨fits, ih others⟩

end TelemetryFabric.Buffer
