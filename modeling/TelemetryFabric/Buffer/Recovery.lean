import TelemetryFabric.Buffer.Run
import TelemetryFabric.Library.Ensures

/-!
Reads and drains that are interrupted: a file-system call fails and the error goes to the
caller, or the process dies between two calls and the directory is opened again. As long
as the active segment ends at a record boundary every such point is harmless. If it does
not, there is a point after which the next record is lost.
-/

namespace TelemetryFabric.Buffer
open Library

/-- A queue that is safe to go on with, from its cursor or from the one in the cursor file. -/
structure DiskQueue.Recoverable (queue : DiskQueue) : Prop where
  shaped : queue.Shaped
  clean : queue.EndsClean queue.cursor
  saved : ∃ saved, queue.dir.cursor = some (cursorText saved) ∧ 1 ≤ saved.segmentId ∧
    saved.segmentId ≤ queue.activeSegmentId ∧ saved.offset ≤ u64Max ∧ queue.EndsClean saved

/-- A reader of such a queue, at a cursor from which the active segment ends cleanly. -/
structure DiskQueue.Reading (queue : DiskQueue) (target : Cursor) : Prop extends queue.Recoverable where
  within : queue.Within target
  ahead : queue.EndsClean target

/-- Two queues that agree on everything reading depends on. -/
structure DiskQueue.Alike (queue later : DiskQueue) : Prop where
  segments : later.dir.segments = queue.dir.segments
  corrupt : later.dir.corrupt = queue.dir.corrupt
  active : later.activeSegmentId = queue.activeSegmentId
  cursor : later.cursor = queue.cursor

/-- They agree on the cursor file, too. -/
structure DiskQueue.Twin (queue later : DiskQueue) : Prop extends queue.Alike later where
  cursorFile : later.dir.cursor = queue.dir.cursor

namespace DiskQueue

variable {queue later : DiskQueue} {target : Cursor}

theorem EndsClean.congr (clean : queue.EndsClean target)
    (active : later.activeSegmentId = queue.activeSegmentId)
    (content : later.activeFile = queue.activeFile) : later.EndsClean target := by
  rw [EndsClean, activeScan, active, content]
  exact clean

/-- With the active file in place, a cursor before it sees the same clean end. -/
theorem EndsClean.of_zero (clean : queue.EndsClean target)
    (before : target.offsetIn queue.activeSegmentId = 0) {next : Cursor}
    (start : next.offsetIn queue.activeSegmentId = 0) : queue.EndsClean next := by
  rw [EndsClean, activeScan, before] at clean
  rw [EndsClean, activeScan, start]
  exact clean

theorem Recoverable.reading (recoverable : queue.Recoverable) : queue.Reading queue.cursor :=
  ⟨recoverable, recoverable.shaped.within, recoverable.clean⟩

/-- Files other than the active one may go, as long as their ids are not used again. -/
theorem Recoverable.congr (recoverable : queue.Recoverable) (shaped : later.Shaped)
    (cursorFile : later.dir.cursor = queue.dir.cursor)
    (active : later.activeSegmentId = queue.activeSegmentId)
    (content : later.activeFile = queue.activeFile) (cursor : later.cursor = queue.cursor) :
    later.Recoverable := by
  obtain ⟨saved, file, positive, bound, small, clean⟩ := recoverable.saved
  refine ⟨shaped, ?_, saved, cursorFile.trans file, positive, active ▸ bound, small,
    clean.congr active content⟩
  rw [cursor]
  exact recoverable.clean.congr active content

theorem Reading.congr (reading : queue.Reading target) (shaped : later.Shaped)
    (cursorFile : later.dir.cursor = queue.dir.cursor)
    (active : later.activeSegmentId = queue.activeSegmentId)
    (content : later.activeFile = queue.activeFile) (cursor : later.cursor = queue.cursor) :
    later.Reading target := by
  refine ⟨reading.toRecoverable.congr shaped cursorFile active content cursor, ?_,
    reading.ahead.congr active content⟩
  rw [Within, cursor, active]
  exact reading.within

theorem Alike.activeFile (alike : queue.Alike later) : later.activeFile = queue.activeFile := by
  rw [DiskQueue.activeFile, DiskQueue.activeFile, alike.segments, alike.active]

theorem Shaped.alike (shaped : queue.Shaped) (alike : queue.Alike later) : later.Shaped := by
  obtain ⟨segments, corrupt, active, cursor⟩ := alike
  refine ⟨⟨?_, ?_⟩, ?_, ?_, ?_, ?_⟩
  · rw [segments, active]
    exact shaped.topped.last
  · rw [active]
    exact shaped.topped.idFits
  · rw [Within, active, cursor]
    exact shaped.within
  · rw [cursor]
    exact shaped.positive
  · rw [corrupt, active, segments]
    exact shaped.retired
  · rw [corrupt]
    exact shaped.distinct

theorem Recoverable.twin (recoverable : queue.Recoverable) (twin : queue.Twin later) :
    later.Recoverable :=
  recoverable.congr (recoverable.shaped.alike twin.toAlike) twin.cursorFile twin.active
    twin.activeFile twin.cursor

theorem Reading.twin (reading : queue.Reading target) (twin : queue.Twin later) :
    later.Reading target :=
  reading.congr (reading.shaped.alike twin.toAlike) twin.cursorFile twin.active twin.activeFile
    twin.cursor

end DiskQueue

/-! ### Contracts of the file-system calls -/

/-- Whatever the plan, the program leads from `pre` to `post`, and a failing call leaves a
queue to go on with. -/
def Keeps {α : Type} (pre : DiskQueue → Prop) (program : QueueM α) (post : α → DiskQueue → Prop) : Prop :=
  Ensures (fun session => pre session.queue) program (fun value session => post value session.queue)
    (fun session => session.queue.Recoverable)

namespace Keeps

variable {α β : Type} {pre : DiskQueue → Prop} {post : α → DiskQueue → Prop}

theorem bind {program : QueueM α} {next : α → QueueM β} {last : β → DiskQueue → Prop}
    (first : Keeps pre program post) (rest : ∀ value, Keeps (post value) (next value) last) :
    Keeps pre (program >>= next) last :=
  Ensures.bind first rest

theorem weaken {program : QueueM α} {stronger : DiskQueue → Prop} {weaker : α → DiskQueue → Prop}
    (contract : Keeps pre program post) (before : ∀ queue, stronger queue → pre queue)
    (after : ∀ value queue, post value queue → weaker value queue) : Keeps stronger program weaker :=
  Ensures.weaken contract (fun session => before session.queue)
    (fun value session => after value session.queue)

theorem pure {value : α} (holds : ∀ queue, pre queue → post value queue) :
    Keeps pre (Pure.pure value) post :=
  fun session before => holds session.queue before

theorem raise {error : DiskQueueError} (safe : ∀ queue, pre queue → queue.Recoverable) :
    Keeps pre (Buffer.raise error : QueueM α) post :=
  fun session before => safe session.queue before

/-- What is read of the queue may be used by the rest of the program. -/
theorem getQueue {next : DiskQueue → QueueM β} {last : β → DiskQueue → Prop}
    (rest : ∀ queue, pre queue → Keeps (fun current => current = queue) (next queue) last) :
    Keeps pre (Buffer.getQueue >>= next) last := by
  intro session before
  rw [bind_apply, getQueue_apply]
  exact rest session.queue before session rfl

theorem modifyQueue {change : DiskQueue → DiskQueue} {post : Unit → DiskQueue → Prop}
    (holds : ∀ queue, pre queue → post () (change queue)) : Keeps pre (Buffer.modifyQueue change) post :=
  fun session before => holds session.queue before

theorem call {effect : Directory → Directory} {post : Unit → DiskQueue → Prop}
    (safe : ∀ queue, pre queue → queue.Recoverable)
    (holds : ∀ queue, pre queue → post () { queue with dir := effect queue.dir }) :
    Keeps pre (Buffer.call effect) post := by
  rintro ⟨queue, plan⟩ before
  cases plan with
  | nil => exact holds queue before
  | cons fault rest =>
    cases fault with
    | none => exact holds queue before
    | some fault =>
      cases fault with
      | error written => exact safe queue before
      | crash written => exact safe queue before

theorem probe (safe : ∀ queue, pre queue → queue.Recoverable) :
    Keeps pre Buffer.probe (fun _ => pre) :=
  call safe (fun _ before => before)

/-- A write is safe if the queue is, however much of it reaches the file. -/
theorem write {size : Nat} {effect : Nat → Directory → Option Directory} {post : Unit → DiskQueue → Prop}
    (before : ∀ queue, pre queue → queue.Recoverable)
    (during : ∀ queue count dir, pre queue → effect count queue.dir = some dir →
      DiskQueue.Recoverable { queue with dir := dir })
    (holds : ∀ queue dir, pre queue → effect size queue.dir = some dir →
      post () { queue with dir := dir }) :
    Keeps pre (Buffer.write size effect) post := by
  rintro ⟨queue, plan⟩ start
  have partly : ∀ count, DiskQueue.Recoverable { queue with
      dir := (effect count queue.dir).getD queue.dir } := by
    intro count
    cases out : effect count queue.dir with
    | none => exact before queue start
    | some dir => exact during queue count dir start out
  cases plan with
  | nil =>
    cases out : effect size queue.dir with
    | none =>
      rw [write_calm_full out]
      exact before queue start
    | some dir =>
      rw [write_calm out]
      exact holds queue dir start out
  | cons fault rest =>
    cases fault with
    | none =>
      cases out : effect size queue.dir with
      | none =>
        rw [write_none_full rest out]
        exact before queue start
      | some dir =>
        rw [write_none rest out]
        exact holds queue dir start out
    | some fault =>
      cases fault with
      | error count =>
        obtain ⟨halt, failed⟩ := write_some size count effect queue (Or.inl rfl) rest
        rw [failed]
        exact partly _
      | crash count =>
        obtain ⟨halt, failed⟩ := write_some size count effect queue (Or.inr rfl) rest
        rw [failed]
        exact partly _

theorem segmentIds (safe : ∀ queue, pre queue → queue.Recoverable) :
    Keeps pre Buffer.segmentIds (fun ids queue => pre queue ∧ ids = queue.dir.segments.keys) := by
  refine (probe safe).bind fun _ => getQueue fun queue before => pure ?_
  rintro _ rfl
  exact ⟨before, rfl⟩

theorem nextCursorAfter (current : Nat) (safe : ∀ queue, pre queue → queue.Recoverable) :
    Keeps pre (Buffer.nextCursorAfter current) (fun found queue => pre queue ∧
      found = (queue.dir.segments.above current).head?.map (fun entry => ⟨entry.1, 0⟩)) := by
  have next : Keeps pre (Buffer.nextSegmentAfter current) (fun found queue => pre queue ∧
      found = (queue.dir.segments.above current).head?.map Prod.fst) := by
    refine (segmentIds safe).bind fun ids => pure ?_
    rintro queue ⟨before, rfl⟩
    exact ⟨before, queue.dir.segments.min?_keys_above current⟩
  refine next.bind fun found => pure ?_
  rintro queue ⟨before, rfl⟩
  refine ⟨before, ?_⟩
  rw [Option.map_map]
  rfl

end Keeps

/-! ### Reading -/

theorem DiskQueue.Reading.setAside {queue : DiskQueue} {target : Cursor} {id suffix : Nat}
    {file : SegmentFile} (reading : queue.Reading target) (reason : String)
    (found : queue.dir.segments.find? id = some file) (older : id < queue.activeSegmentId) :
    (queue.setAside id suffix file reason).Reading target :=
  reading.congr (reading.shaped.setAside suffix reason found older)
    (DiskQueue.Sound.setAside_files suffix reason found).1 rfl (activeFile_setAside suffix reason found older) rfl

/-- Renaming an older segment aside is safe at each of its calls. -/
theorem quarantineSegment_keeps (target : Cursor) (id active : Nat) (reason : String) :
    Keeps (fun queue => queue.Reading target ∧ queue.activeSegmentId = active ∧ id < active)
      (quarantineSegment id reason)
      (fun _ queue => queue.Reading target ∧ queue.activeSegmentId = active) := by
  refine Keeps.getQueue fun queue before => ?_
  obtain ⟨reading, rfl, older⟩ := before
  dsimp only
  cases found : queue.dir.segments.find? id with
  | none =>
    refine Keeps.pure ?_
    rintro _ rfl
    exact ⟨reading, rfl⟩
  | some source =>
    have same : ∀ current, current = queue → current.Recoverable := by
      rintro _ rfl
      exact reading.toRecoverable
    refine (Keeps.probe same).bind fun _ => ?_
    cases free : corruptSegmentSuffix queue.dir id with
    | none => exact Keeps.raise same
    | some suffix =>
      -- from the rename on, the queue is like the one with the segment set aside
      have aside : ∀ current, (queue.setAside id suffix source reason).Twin current →
          current.Reading target ∧ current.activeSegmentId = queue.activeSegmentId :=
        fun current twin => ⟨(reading.setAside reason found older).twin twin, twin.active⟩
      have safe : ∀ current, (queue.setAside id suffix source reason).Twin current →
          current.Recoverable := fun current twin => (aside current twin).1.toRecoverable
      have renamed : Keeps (fun current => current = queue) (call (·.renameCorrupt id suffix))
          (fun _ => (queue.setAside id suffix source reason).Twin) := by
        refine Keeps.call same ?_
        rintro _ rfl
        exact ⟨⟨rfl, rfl, rfl, rfl⟩, rfl⟩
      have counted : Keeps (queue.setAside id suffix source reason).Twin
          (modifyQueue fun queue => { queue with queuedBytes := queue.queuedBytes - source.len })
          (fun _ => (queue.setAside id suffix source reason).Twin) :=
        Keeps.modifyQueue fun current twin =>
          ⟨⟨twin.segments, twin.corrupt, twin.active, twin.cursor⟩, twin.cursorFile⟩
      refine renamed.bind fun _ => counted.bind fun _ => Keeps.write safe ?_ ?_
      · rintro current count dir twin written
        cases written
        exact safe _ ⟨⟨twin.segments, twin.corrupt, twin.active, twin.cursor⟩, twin.cursorFile⟩
      · rintro current dir twin written
        cases written
        exact aside _ ⟨⟨twin.segments, twin.corrupt, twin.active, twin.cursor⟩, twin.cursorFile⟩

/-- The reader goes on behind a segment older than the active one. -/
theorem DiskQueue.Reading.onward {queue : DiskQueue} {target next : Cursor} (reading : queue.Reading target)
    (older : target.segmentId < queue.activeSegmentId)
    (moved : (moveOrEmpty ((queue.dir.segments.above target.segmentId).head?.map
      (fun entry => ⟨entry.1, 0⟩))).target = some next) : queue.Reading next := by
  refine ⟨reading.toRecoverable, reading.shaped.within_above reading.within moved, ?_⟩
  exact reading.ahead.of_zero (if_neg older.ne) (offsetIn_start _ (DiskQueue.Topped.offset_of_moveOrEmpty moved))

/-- What a read step leaves: a queue to go on with, and the cursor it hands out. -/
def StepKept (step : ReadStep) (queue : DiskQueue) : Prop :=
  queue.Recoverable ∧ ∀ next, step.target = some next → queue.Reading next

theorem nextCursorAfter_keeps (target : Cursor) :
    Keeps (fun queue => queue.Reading target ∧ target.segmentId < queue.activeSegmentId)
      (do return moveOrEmpty (← nextCursorAfter target.segmentId)) StepKept := by
  refine (Keeps.nextCursorAfter target.segmentId (fun _ before => before.1.toRecoverable)).bind
    fun found => Keeps.pure ?_
  rintro queue ⟨⟨reading, older⟩, rfl⟩
  exact ⟨reading.toRecoverable, fun next moved => reading.onward older moved⟩

theorem quarantineAndAdvance_keeps (target : Cursor) (reason : String) :
    Keeps (fun queue => queue.Reading target ∧ target.segmentId < queue.activeSegmentId)
      (quarantineAndAdvance target.segmentId reason) StepKept := by
  intro session before
  have aside := quarantineSegment_keeps target target.segmentId session.queue.activeSegmentId reason
  refine Keeps.bind aside ?_ session ⟨before.1, rfl, before.2⟩
  intro _
  refine Keeps.getQueue fun queue reached => ?_
  have older : ¬ target.segmentId ≥ queue.activeSegmentId := by
    rw [reached.2]
    exact not_le.mpr before.2
  rw [if_neg older]
  refine (nextCursorAfter_keeps target).weaken ?_ (fun _ _ kept => kept)
  rintro _ rfl
  exact ⟨reached.1, not_le.mp older⟩

/-- A reader whose active segment ends cleanly meets refused records in older ones only. -/
theorem DiskQueue.Reading.older_of_refused {queue : DiskQueue} {target : Cursor} {file : SegmentFile}
    (reading : queue.Reading target) (found : queue.dir.segments.find? target.segmentId = some file)
    (refused : (parseRecord (file.bytes.drop target.offset)).refused = true) :
    target.segmentId < queue.activeSegmentId := by
  refine lt_of_le_of_ne reading.within.2.1 fun here => ?_
  have content : queue.activeFile = file := by
    rw [DiskQueue.activeFile, ← here, found]
    rfl
  have clean := reading.ahead.2
  rw [DiskQueue.activeScan, Cursor.offsetIn, if_pos here, content] at clean
  have bad := (scan_refused refused).2
  rw [clean] at bad
  cases bad

theorem DiskQueue.Reading.record {queue : DiskQueue} {target next : Cursor} {file : SegmentFile}
    {payload : Bytes} (reading : queue.Reading target)
    (found : queue.dir.segments.find? target.segmentId = some file)
    (parsed : parseRecord (file.bytes.drop target.offset) = .record payload)
    (moved : (ReadStep.record payload ⟨target.segmentId,
      target.offset + recordHeaderLen + payload.length⟩).target = some next) : queue.Reading next := by
  have steps := StepsTo.record file payload found parsed
  obtain ⟨-, -, within⟩ := reading.shaped.stepsTo reading.within steps
  obtain ⟨-, tail⟩ := reading.shaped.topped.activeScan_stepsTo steps rfl
  obtain ⟨scanned, fits⟩ := tail next moved
  exact ⟨reading.toRecoverable, within next moved, fits reading.ahead.1, scanned.trans reading.ahead.2⟩

theorem readStepAt_keeps (target : Cursor) :
    Keeps (fun queue => queue.Reading target) (readStepAt target) StepKept := by
  refine Keeps.getQueue fun queue reading => ?_
  have same : ∀ current, current = queue → current.Recoverable := by
    rintro _ rfl
    exact reading.toRecoverable
  cases found : queue.dir.segments.find? target.segmentId with
  | none =>
    have older : target.segmentId < queue.activeSegmentId := by
      refine lt_of_le_of_ne reading.within.2.1 fun here => ?_
      rw [here, reading.shaped.topped.find?_active] at found
      cases found
    refine (nextCursorAfter_keeps target).weaken ?_ (fun _ _ kept => kept)
    rintro _ rfl
    exact ⟨reading, older⟩
  | some file =>
    refine (Keeps.probe same).bind fun _ => (Keeps.probe same).bind fun _ => (Keeps.probe same).bind fun _ => ?_
    cases parsed : parseRecord (file.bytes.drop target.offset) with
    | endOfFile =>
      by_cases older : target.segmentId < queue.activeSegmentId
      · rw [if_pos older]
        refine (nextCursorAfter_keeps target).weaken ?_ (fun _ _ kept => kept)
        rintro _ rfl
        exact ⟨reading, older⟩
      · rw [if_neg older]
        refine Keeps.pure ?_
        rintro _ rfl
        exact ⟨reading.toRecoverable, fun next moved => by cases moved⟩
    | truncated =>
      have older := reading.older_of_refused found (by rw [parsed]; rfl)
      refine (Keeps.probe same).bind fun _ => (quarantineAndAdvance_keeps target _).weaken ?_
        (fun _ _ kept => kept)
      rintro _ rfl
      exact ⟨reading, older⟩
    | mismatch =>
      have older := reading.older_of_refused found (by rw [parsed]; rfl)
      refine (Keeps.probe same).bind fun _ => (quarantineAndAdvance_keeps target _).weaken ?_
        (fun _ _ kept => kept)
      rintro _ rfl
      exact ⟨reading, older⟩
    | record payload =>
      refine (Keeps.probe same).bind fun _ => Keeps.pure ?_
      rintro _ rfl
      exact ⟨reading.toRecoverable, fun next moved => reading.record found parsed moved⟩

/-! ### Committing -/

/-- Removing a segment before the cursor. -/
theorem DiskQueue.Recoverable.removed {queue : DiskQueue} {id : Nat} (recoverable : queue.Recoverable)
    (before : id < queue.activeSegmentId) :
    DiskQueue.Recoverable { queue with dir := queue.dir.removeSegment id } := by
  have shaped := recoverable.shaped
  have content : (queue.dir.segments.erase id).find? queue.activeSegmentId =
      queue.dir.segments.find? queue.activeSegmentId := by
    rw [OrderedMap.find?_erase, if_neg before.ne']
  refine recoverable.congr ⟨⟨?_, shaped.topped.idFits⟩, shaped.within, shaped.positive, ?_, shaped.distinct⟩
    rfl rfl ?_ rfl
  · obtain ⟨older, listing⟩ := shaped.topped.entries_eq
    refine ⟨older.filter (fun entry => entry.1 ≠ id), queue.activeFile, ?_⟩
    change (queue.dir.segments.erase id).entries = _
    rw [OrderedMap.erase_entries, listing, List.filter_append]
    simp [before.ne']
  · intro other member
    refine ⟨(shaped.retired other member).1, ?_⟩
    change (queue.dir.segments.erase id).find? other.id = none
    rw [OrderedMap.find?_erase]
    split_ifs
    · rfl
    · exact (shaped.retired other member).2
  · exact congrArg (fun file => file.getD SegmentFile.empty) content

/-- The queue in the middle of `commit_cursor`. -/
def DiskQueue.Committing (queue : DiskQueue) (active : Nat) (cursor : Cursor) : Prop :=
  queue.Recoverable ∧ queue.activeSegmentId = active ∧ queue.cursor = cursor

theorem removeSegments_keeps (active : Nat) (cursor : Cursor) (ids : List Nat)
    (before : ∀ id ∈ ids, id < active) :
    Keeps (fun queue => queue.Committing active cursor) (removeSegments ids)
      (fun _ queue => queue.Committing active cursor) := by
  induction ids with
  | nil => exact Keeps.pure (fun _ holds => holds)
  | cons id rest ih =>
    have later := ih (fun other member => before other (List.mem_cons_of_mem _ member))
    refine Keeps.getQueue fun queue holds => ?_
    have same : ∀ current, current = queue → current.Recoverable := by
      rintro _ rfl
      exact holds.1
    cases found : queue.dir.segments.find? id with
    | none =>
      refine later.weaken ?_ (fun _ _ kept => kept)
      rintro _ rfl
      exact holds
    | some file =>
      have removed : Keeps (fun current => current = queue) (call (·.removeSegment id))
          (fun _ current => current.Committing active cursor) := by
        refine Keeps.call same ?_
        rintro _ rfl
        exact ⟨holds.1.removed (holds.2.1 ▸ before id (by simp)), holds.2⟩
      have counted : Keeps (fun current => current.Committing active cursor)
          (modifyQueue fun queue => { queue with queuedBytes := queue.queuedBytes - file.len })
          (fun _ current => current.Committing active cursor) :=
        Keeps.modifyQueue fun current kept =>
          ⟨kept.1.twin ⟨⟨rfl, rfl, rfl, rfl⟩, rfl⟩, kept.2⟩
      exact (Keeps.probe same).bind fun _ => removed.bind fun _ => counted.bind fun _ => later

theorem persistCursor_keeps (active : Nat) (cursor : Cursor) :
    Keeps (fun queue => queue.Committing active cursor) (persistCursor cursor)
      (fun _ queue => queue.Recoverable) := by
  have written : Keeps (fun queue => queue.Committing active cursor)
      (write (cursorText cursor).length fun count dir =>
        some (dir.writeCursorTmp ((cursorText cursor).take count)))
      (fun _ queue => queue.Recoverable ∧ queue.cursor = cursor ∧
        queue.dir.cursorTmp = some (cursorText cursor)) := by
    refine Keeps.write (fun _ holds => holds.1) ?_ ?_
    · rintro queue count dir ⟨recoverable, -⟩ out
      cases out
      exact recoverable.twin ⟨⟨rfl, rfl, rfl, rfl⟩, rfl⟩
    · rintro queue dir ⟨recoverable, -, moved⟩ out
      cases out
      refine ⟨recoverable.twin ⟨⟨rfl, rfl, rfl, rfl⟩, rfl⟩, moved, ?_⟩
      exact congrArg some (List.take_length ..)
  refine written.bind fun _ => Keeps.call (fun _ holds => holds.1) ?_
  rintro queue ⟨recoverable, rfl, tmp⟩
  have shaped := recoverable.shaped
  exact ⟨shaped.alike ⟨rfl, rfl, rfl, rfl⟩, recoverable.clean, queue.cursor, tmp, shaped.positive,
    shaped.within.2.1, shaped.within.2.2, recoverable.clean⟩

theorem DiskQueue.Reading.moved {queue : DiskQueue} {next : Cursor} (reading : queue.Reading next) :
    DiskQueue.Recoverable { queue with cursor := next } := by
  have shaped := reading.shaped
  exact ⟨⟨⟨shaped.topped.last, shaped.topped.idFits⟩, ⟨le_rfl, reading.within.2⟩,
    shaped.positive.trans reading.within.1, shaped.retired, shaped.distinct⟩, reading.ahead,
    reading.saved⟩

theorem commitCursor_keeps (next : Cursor) :
    Keeps (fun queue => queue.Reading next) (commitCursor next) (fun _ queue => queue.Recoverable) := by
  intro session reading
  have bound := reading.within.2.1
  have moved : Keeps (fun queue => queue = session.queue)
      (modifyQueue fun queue => { queue with cursor := next })
      (fun _ queue => queue.Committing session.queue.activeSegmentId next) := by
    refine Keeps.modifyQueue ?_
    rintro _ rfl
    exact ⟨reading.moved, rfl, rfl⟩
  have removed : Keeps (fun queue => queue.Committing session.queue.activeSegmentId next)
      (removeSegmentsBefore next.segmentId)
      (fun _ queue => queue.Committing session.queue.activeSegmentId next) := by
    refine (Keeps.segmentIds fun _ holds => holds.1).bind fun ids => ?_
    refine (removeSegments_keeps session.queue.activeSegmentId next _ ?_).weaken
      (fun _ holds => holds.1) (fun _ _ kept => kept)
    intro id member
    exact (of_decide_eq_true (List.mem_filter.mp member).2).trans_le bound
  exact (moved.bind fun _ => removed.bind fun _ => persistCursor_keeps _ next) session rfl

/-! ### The loops -/

theorem readLoop_keeps (maxItems fuel : Nat) (cursor final : Cursor) (commit : Bool) (batch : List Bytes) :
    Keeps (fun queue => queue.Reading cursor) (readLoop maxItems fuel cursor final commit batch)
      (fun _ _ => True) := by
  induction fuel generalizing cursor final commit batch with
  | zero => exact fun session reading => reading.toRecoverable
  | succ fuel ih =>
    rw [readLoop]
    split_ifs
    · refine (readStepAt_keeps cursor).bind fun step => ?_
      cases step with
      | record payload next =>
        exact (ih next next commit _).weaken (fun _ kept => kept.2 next rfl) (fun _ _ done => done)
      | move next =>
        exact (ih next next true batch).weaken (fun _ kept => kept.2 next rfl) (fun _ _ done => done)
      | empty => exact Keeps.pure (fun _ _ => trivial)
    · exact Keeps.pure (fun _ _ => trivial)

theorem readBatch_keeps (maxItems : Nat) :
    Keeps (fun queue => queue.Recoverable) (readBatch maxItems) (fun _ _ => True) := by
  refine Keeps.getQueue fun queue recoverable => ?_
  split_ifs
  · exact Keeps.pure (fun _ _ => trivial)
  · have reserved : Keeps (fun current => current = queue) (reserveBatch maxItems) fun _ current => current = queue := by
      unfold reserveBatch
      split_ifs
      · exact Keeps.pure fun _ same => same
      · intro session same
        exact (show session.queue = queue from same) ▸ recoverable
    refine reserved.bind fun _ => (readLoop_keeps maxItems _ queue.cursor queue.cursor false []).weaken ?_
      (fun _ _ done => done)
    rintro _ rfl
    exact recoverable.reading

theorem drainLoop_keeps {σ : Type} (sink : Sink σ Bytes) (maxItems fuel drained : Nat) (captured : σ) :
    Keeps (fun queue => queue.Recoverable) (drainLoop sink maxItems fuel drained captured)
      (fun _ _ => True) := by
  induction fuel generalizing drained captured with
  | zero => exact fun session recoverable => recoverable
  | succ fuel ih =>
    rw [drainLoop]
    split_ifs
    · refine Keeps.getQueue fun queue recoverable => ?_
      have step := (readStepAt_keeps queue.cursor).weaken
        (fun current (same : current = queue) => same ▸ recoverable.reading) (fun _ _ kept => kept)
      refine step.bind fun step => ?_
      cases step with
      | record payload next =>
        dsimp only
        cases sink captured payload with
        | mk answer after =>
          cases answer with
          | error error => exact Keeps.pure (fun _ _ => trivial)
          | ok done =>
            exact ((commitCursor_keeps next).weaken (fun _ kept => kept.2 next rfl)
              (fun _ _ kept => kept)).bind fun _ => ih (drained + 1) after
      | move next =>
        exact ((commitCursor_keeps next).weaken (fun _ kept => kept.2 next rfl)
          (fun _ _ kept => kept)).bind fun _ => ih drained captured
      | empty => exact Keeps.pure (fun _ _ => trivial)
    · exact Keeps.pure (fun _ _ => trivial)

theorem drain_keeps {σ : Type} (maxItems : Nat) (sink : Sink σ Bytes) (captured : σ) :
    Keeps (fun queue => queue.Recoverable) (drain maxItems sink captured) (fun _ _ => True) := by
  refine Keeps.getQueue fun queue recoverable => ?_
  refine (drainLoop_keeps sink maxItems _ 0 captured).weaken ?_ (fun _ _ done => done)
  rintro _ rfl
  exact recoverable

end TelemetryFabric.Buffer
