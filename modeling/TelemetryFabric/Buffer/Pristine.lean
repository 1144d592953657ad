import TelemetryFabric.Buffer.Intact
import TelemetryFabric.Buffer.Batch

/-!
A queue none of whose segments is damaged. Reading it changes nothing, a batch is the head
of what is readable, and it stays that while records are appended, until it is committed.
-/

namespace TelemetryFabric.Buffer
open Library

/-! ### Reading undamaged segments -/

namespace DiskQueue.Intact

variable {queue later : DiskQueue} {cursor : Cursor}

/-- Without damage a reader changes nothing. -/
theorem unchanged (intact : queue.Intact [] cursor) {step : ReadStep}
    (steps : StepsTo queue cursor step later) : later = queue := by
  cases steps with
  | missing => rfl
  | record => rfl
  | finished => rfl
  | leave => rfl
  | quarantine file suffix reason found parsed free older =>
    exact absurd (intact.mem_of_refused found parsed) (by simp)
  | replace file suffix reason found parsed free active room =>
    exact absurd (intact.mem_of_refused found parsed) (by simp)

theorem not_stuck (intact : queue.Intact [] cursor) : ¬ Stuck queue cursor := by
  rintro ⟨file, found, refused, -⟩
  exact absurd (intact.mem_of_refused found refused) (by simp)

theorem loop_invariant (queue : DiskQueue) (maxItems : Nat) :
    LoopInvariant maxItems
      (fun current cursor _ _ => current = queue ∧ current.Intact [] cursor) where
  record := by
    rintro current cursor commit batch payload next later ⟨rfl, intact⟩ _ steps
    exact ⟨intact.unchanged steps, intact.of_record steps⟩
  move := by
    rintro current cursor commit batch next later ⟨rfl, intact⟩ _ steps
    exact ⟨intact.unchanged steps, intact.of_move steps⟩
  empty := by
    rintro current cursor commit batch later ⟨rfl, intact⟩ _ steps
    rw [intact.unchanged steps]
    exact ⟨rfl, intact⟩

/-- A read of undamaged segments succeeds and leaves the queue as it is. -/
theorem readBatch_eq (intact : queue.Intact [] queue.cursor) {maxItems : Nat} (fits : maxItems ≤ maxBatchItems) :
    ∃ batch, readBatch maxItems ⟨queue, []⟩ = .ok batch ⟨queue, []⟩ ∧
      queue.Intact [] batch.nextCursor := by
  rcases readBatch_rule (loop_invariant queue maxItems) ⟨rfl, intact⟩ fits with
    ⟨batch, later, done, ⟨rfl, kept⟩, -⟩ | ⟨message, later, failed, current, cursor, commit, batch,
      ⟨rfl, kept⟩, -, stuck⟩
  · exact ⟨batch, done, kept⟩
  · exact absurd stuck.stuck kept.not_stuck

/-- An enqueue behind undamaged segments is one more record for every reader. -/
theorem enqueued (intact : queue.Intact [] cursor) (topped : queue.Topped)
    (bound : cursor.segmentId ≤ queue.activeSegmentId) {payload : Bytes} {full : SegmentFile}
    (small : payload.length ≤ u32Max) (room : queue.rotates payload → queue.activeSegmentId < u64Max)
    (bytes : full.bytes = (queue.rotated payload).activeFile.bytes ++ frame payload) :
    ((queue.rotated payload).appended payload full).Intact [] cursor ∧
      ((queue.rotated payload).appended payload full).readableAt cursor =
        queue.readableAt cursor ++ [payload] := by
  refine ⟨(intact.rotated payload bound).appended (topped.rotated room)
    (bound.trans (activeSegmentId_rotated _ _)) bytes small, ?_⟩
  rw [DiskQueue.readableAt, aheadAt_enqueued topped bound small room bytes
    (Or.inr (intact.endsClean topped bound (by simp))), List.map_append]
  rfl

end DiskQueue.Intact

/-- A sound queue whose segments hold nothing but whole records from the cursor on. -/
structure DiskQueue.Pristine (queue : DiskQueue) : Prop where
  sound : queue.Sound
  intact : queue.Intact [] queue.cursor

/-- A batch that is the head of what is readable. -/
structure Shown (queue : DiskQueue) (batch : PendingBatch) : Prop where
  within : queue.Within batch.nextCursor
  still : batch.payloads = [] → batch.shouldCommit = false → batch.nextCursor = queue.cursor
  intact : queue.Intact [] batch.nextCursor
  split : batch.payloads ++ queue.readableAt batch.nextCursor = queue.readable

namespace DiskQueue.Pristine

variable {queue : DiskQueue} {payload : Bytes} {full : SegmentFile}

theorem enqueued (pristine : queue.Pristine) (small : payload.length ≤ u32Max)
    (room : queue.rotates payload → queue.activeSegmentId < u64Max)
    (bytes : full.bytes = (queue.rotated payload).activeFile.bytes ++ frame payload) :
    ((queue.rotated payload).appended payload full).Pristine ∧
      ((queue.rotated payload).appended payload full).readable = queue.readable ++ [payload] := by
  have unmoved : ((queue.rotated payload).appended payload full).cursor = queue.cursor :=
    cursor_rotated queue payload
  obtain ⟨intact, ahead⟩ := pristine.intact.enqueued pristine.sound.topped pristine.sound.within.2.1
    small room bytes
  refine ⟨⟨pristine.sound.enqueued room, ?_⟩, ?_⟩
  · rw [unmoved]
    exact intact
  · rw [DiskQueue.readable, unmoved]
    exact ahead

/-- Reading shows the head of the queue and changes nothing. -/
theorem reads (pristine : queue.Pristine) {maxItems : Nat} (fits : maxItems ≤ maxBatchItems) :
    ∃ batch, readBatch maxItems ⟨queue, []⟩ = .ok batch ⟨queue, []⟩ ∧ Shown queue batch ∧
      batch.payloads = queue.readable.take maxItems := by
  obtain ⟨batch, done, kept⟩ := pristine.intact.readBatch_eq fits
  have took := Took.of_readBatch pristine.sound.toShaped done
  refine ⟨batch, done, ⟨took.within, took.still, kept, ?_⟩, took.payloads⟩
  rw [took.payloads, took.rest, List.take_append_drop]

end DiskQueue.Pristine

namespace Shown

variable {queue : DiskQueue} {batch : PendingBatch} {payload : Bytes} {full : SegmentFile}

/-- It stays one behind later enqueues. -/
theorem enqueued (shown : Shown queue batch) (pristine : queue.Pristine) (small : payload.length ≤ u32Max)
    (room : queue.rotates payload → queue.activeSegmentId < u64Max)
    (bytes : full.bytes = (queue.rotated payload).activeFile.bytes ++ frame payload) :
    Shown ((queue.rotated payload).appended payload full) batch := by
  have unmoved : ((queue.rotated payload).appended payload full).cursor = queue.cursor :=
    cursor_rotated queue payload
  obtain ⟨intact, ahead⟩ := shown.intact.enqueued pristine.sound.topped shown.within.2.1 small room bytes
  refine ⟨⟨?_, shown.within.2.1.trans (activeSegmentId_rotated queue payload), shown.within.2.2⟩, ?_, intact, ?_⟩
  · rw [unmoved]
    exact shown.within.1
  · rw [unmoved]
    exact shown.still
  · rw [ahead, (pristine.enqueued small room bytes).2, ← shown.split, List.append_assoc]

/-- Committing it leaves the rest. -/
theorem committed (shown : Shown queue batch) (pristine : queue.Pristine) :
    (queue.afterCommit batch).Pristine ∧
      batch.payloads ++ (queue.afterCommit batch).readable = queue.readable := by
  refine ⟨⟨pristine.sound.afterCommit shown.within, ?_⟩, ?_⟩
  · unfold DiskQueue.afterCommit
    split_ifs
    · exact shown.intact.committed batch.nextCursor
    · exact pristine.intact
  · rw [readable_afterCommit shown.still]
    exact shown.split

end Shown

end TelemetryFabric.Buffer
