import TelemetryFabric.Buffer.Fifo
import TelemetryFabric.Buffer.Ledger

/-!
What is left of a queue that has been read to its end. While nothing goes wrong with the
files, a segment is only started for a record that is then written to it, so a reader that
has seen everything stands in the active segment and a commit has removed all the others.
The active one stays, with all its bytes.
-/

namespace TelemetryFabric.Buffer
open Library

/-- The empty end of a file is the only clean one without a record. -/
theorem nil_of_scan {rest : Bytes} (none : (scan rest).1 = []) (clean : (scan rest).2 = .clean) :
    rest = [] := by
  cases found : parseRecord rest with
  | endOfFile =>
    rw [scan_endOfFile found] at clean
    by_contra some
    rw [if_neg some] at clean
    cases clean
  | record payload =>
    rw [scan_record found] at none
    cases none
  | truncated =>
    rw [scan_truncated found] at clean
    cases clean
  | mismatch =>
    rw [scan_mismatch found] at clean
    cases clean

/-- A place to read from, not necessarily behind the cursor. -/
structure DiskQueue.Legal (queue : DiskQueue) (cursor : Cursor) : Prop where
  positive : 1 ≤ cursor.segmentId
  bound : cursor.segmentId ≤ queue.activeSegmentId
  fits : cursor.offset ≤ u64Max
  intact : queue.Intact [] cursor

/-- An undamaged queue whose counters are right and whose active segment is empty only while
it is the only one. -/
structure DiskQueue.Tidy (queue : DiskQueue) : Prop where
  pristine : queue.Pristine
  balanced : queue.Balanced
  filled : queue.activeFile.bytes = [] →
    queue.dir.segments.entries = [(queue.activeSegmentId, queue.activeFile)]

namespace DiskQueue.Legal

variable {queue : DiskQueue} {cursor target : Cursor} {payload : Bytes} {full : SegmentFile}

theorem enqueued (legal : queue.Legal cursor) (topped : queue.Topped) (small : payload.length ≤ u32Max)
    (room : queue.rotates payload → queue.activeSegmentId < u64Max)
    (bytes : full.bytes = (queue.rotated payload).activeFile.bytes ++ frame payload) :
    ((queue.rotated payload).appended payload full).Legal cursor :=
  ⟨legal.positive, legal.bound.trans (activeSegmentId_rotated queue payload), legal.fits,
    (legal.intact.enqueued topped legal.bound small room bytes).1⟩

theorem committed (legal : queue.Legal cursor) (target : Cursor) : (queue.committed target).Legal cursor :=
  ⟨legal.positive, legal.bound, legal.fits, legal.intact.committed target⟩

theorem afterCommit (legal : queue.Legal cursor) (batch : PendingBatch) :
    (queue.afterCommit batch).Legal cursor := by
  unfold DiskQueue.afterCommit
  split_ifs
  · exact legal.committed batch.nextCursor
  · exact legal

end DiskQueue.Legal

namespace DiskQueue.Tidy

variable {queue : DiskQueue} {cursor : Cursor} {payload : Bytes} {full : SegmentFile}

theorem enqueued (tidy : queue.Tidy) (small : payload.length ≤ u32Max)
    (room : queue.rotates payload → queue.activeSegmentId < u64Max)
    (bytes : full.bytes = (queue.rotated payload).activeFile.bytes ++ frame payload) :
    ((queue.rotated payload).appended payload full).Tidy := by
  refine ⟨(tidy.pristine.enqueued small room bytes).1, tidy.balanced.enqueued room bytes, ?_⟩
  intro empty
  rw [activeFile_appended, bytes, List.append_eq_nil_iff] at empty
  have size := congrArg List.length empty.2
  rw [length_frame] at size
  exact absurd size (by simp [recordHeaderLen])

/-- A commit, also one that takes the cursor back. -/
theorem committed (tidy : queue.Tidy) (legal : queue.Legal cursor) : (queue.committed cursor).Tidy := by
  refine ⟨⟨?_, legal.intact.committed cursor⟩, tidy.balanced.committed legal.bound, ?_⟩
  · exact tidy.pristine.sound.toShaped.committed_at legal.positive legal.bound legal.fits
  · intro empty
    rw [activeFile_committed queue legal.bound] at empty ⊢
    change queue.dir.segments.since cursor.segmentId = [(queue.activeSegmentId, queue.activeFile)]
    rw [OrderedMap.since, tidy.filled empty]
    simp [legal.bound]

theorem afterCommit (tidy : queue.Tidy) {batch : PendingBatch} (legal : queue.Legal batch.nextCursor) :
    (queue.afterCommit batch).Tidy := by
  unfold DiskQueue.afterCommit
  split_ifs
  · exact tidy.committed legal
  · exact tidy

theorem reads (tidy : queue.Tidy) {maxItems : Nat} (fits : maxItems ≤ maxBatchItems) :
    ∃ batch, readBatch maxItems ⟨queue, []⟩ = .ok batch ⟨queue, []⟩ ∧ queue.Legal batch.nextCursor := by
  obtain ⟨batch, read, shown, -⟩ := tidy.pristine.reads fits
  exact ⟨batch, read, tidy.pristine.sound.positive.trans shown.within.1, shown.within.2.1,
    shown.within.2.2, shown.intact⟩

theorem reopened (tidy : queue.Tidy) (options : DiskQueueOptions) :
    (DiskQueue.openDir queue.dir options).Tidy := by
  have sound := tidy.pristine.sound.reopened options
  have parsed : queue.dir.Parsed := by
    intro id member
    obtain ⟨entry, inside, rfl⟩ := List.mem_map.mp member
    exact (tidy.balanced.topped.le_active inside).trans tidy.balanced.topped.idFits
  have balanced := openDir_balanced parsed options
  rw [tidy.pristine.sound.openDir_eq options] at sound balanced ⊢
  exact ⟨⟨sound, tidy.pristine.intact⟩, balanced, tidy.filled⟩

theorem fresh (path : String) (options : DiskQueueOptions) :
    (DiskQueue.openDir (.fresh path) options).Tidy := by
  have follows := RunState.start_follows path options
  refine ⟨⟨follows.healthy.queue, follows.healthy.intact⟩, openDir_balanced ?_ options, fun _ => rfl⟩
  intro id member
  cases member

/-- Once everything has been read and committed, the active segment is the only one. -/
theorem drained (tidy : queue.Tidy) (nothing : queue.readable = []) :
    queue.dir.segments.entries = [(queue.activeSegmentId, queue.activeFile)] := by
  have topped := tidy.balanced.topped
  have bound := tidy.pristine.sound.within.2.1
  by_cases here : queue.cursor.segmentId = queue.activeSegmentId
  · obtain ⟨older, listing⟩ := topped.entries_eq
    cases older with
    | nil => exact listing
    | cons entry rest =>
      have below := below_active listing entry (by simp)
      have floor := tidy.pristine.sound.floor entry (by simp [listing])
      omega
  · apply tidy.filled
    -- the active segment is read from its start, and there is no record in it
    obtain ⟨-, clean⟩ := tidy.pristine.intact.endsClean topped bound (by simp)
    have ahead : queue.aheadAt queue.cursor = [] := List.map_eq_nil_iff.mp nothing
    rw [topped.aheadAt_split bound, List.append_eq_nil_iff] at ahead
    have none : (queue.activeScan queue.cursor).1 = [] := List.map_eq_nil_iff.mp ahead.2
    have start : queue.cursor.offsetIn queue.activeSegmentId = 0 := if_neg here
    rw [DiskQueue.activeScan, start] at none clean
    exact nil_of_scan none clean

/-- Its size is all that is counted. -/
theorem queuedBytes_of_drained (tidy : queue.Tidy) (nothing : queue.readable = []) :
    queue.queuedBytes = queue.activeSegmentBytes := by
  rw [tidy.balanced.queued, tidy.balanced.active, Directory.segmentBytes, OrderedMap.valueSum,
    tidy.drained nothing]
  simp

end DiskQueue.Tidy

end TelemetryFabric.Buffer
