import TelemetryFabric.Buffer.Ledger
import TelemetryFabric.Buffer.Stream

/-!
The byte counter under failures. Whatever file-system calls fail, `queued_bytes` is at most the
size of the segment files: what is cut short is in the files and not in the counter.
-/

namespace TelemetryFabric.Buffer
open Library

/-! ### The counter and the files -/

structure DiskQueue.Covered (queue : DiskQueue) : Prop extends queue.Bounded 0 where
  bytes : queue.queuedBytes ≤ queue.dir.segmentBytes

namespace DiskQueue.Covered

variable {queue later : DiskQueue} {payload : Bytes} {full : SegmentFile}

theorem congr (covered : queue.Covered) (segments : later.dir.segments = queue.dir.segments)
    (active : later.activeSegmentId = queue.activeSegmentId) (queued : later.queuedBytes = queue.queuedBytes) :
    later.Covered := by
  refine ⟨covered.toBounded.congr segments active, ?_⟩
  rw [Directory.segmentBytes, segments, queued]
  exact covered.bytes

/-- The next segment has been numbered; its file is made, or not. -/
theorem advanced (covered : queue.Covered) {id : Nat} (above : queue.activeSegmentId < id) :
    ({ queue with activeSegmentId := id, activeSegmentBytes := 0 } : DiskQueue).Covered :=
  ⟨covered.toBounded.advanced above, covered.bytes⟩

theorem started (covered : queue.Covered) {id : Nat} (above : queue.activeSegmentId < id) :
    (queue.startSegment id).Covered := by
  refine ⟨covered.toBounded.started above, ?_⟩
  rw [DiskQueue.Balanced.startSegment_segmentBytes (covered.absent above)]
  exact covered.bytes

/-- A file of the queue becomes longer, by at least what the counter does. -/
theorem written (covered : queue.Covered) {id : Nat} (more : Nat) (bound : id ≤ queue.activeSegmentId)
    (longer : ((queue.dir.segments.find? id).getD .empty).len + more ≤ full.len)
    (segments : later.dir.segments = queue.dir.segments.insert id full)
    (active : later.activeSegmentId = queue.activeSegmentId) (queued : later.queuedBytes ≤ queue.queuedBytes + more) :
    later.Covered := by
  have sums := queue.dir.segments.valueSum_insert SegmentFile.len id full
  have before : (queue.dir.segments.find? id).elim 0 SegmentFile.len =
      ((queue.dir.segments.find? id).getD .empty).len := by
    cases queue.dir.segments.find? id <;> rfl
  refine ⟨covered.toBounded.put bound segments active, ?_⟩
  have bytes := covered.bytes
  rw [Directory.segmentBytes] at bytes ⊢
  rw [segments]
  omega

/-- A file is taken away with its size. -/
theorem erased (covered : queue.Covered) {id : Nat} {file : SegmentFile}
    (found : queue.dir.segments.find? id = some file) (segments : later.dir.segments = queue.dir.segments.erase id)
    (active : later.activeSegmentId = queue.activeSegmentId)
    (queued : later.queuedBytes = queue.queuedBytes - file.len) : later.Covered := by
  refine ⟨covered.toBounded.erased segments active, ?_⟩
  have sums := segmentBytes_erased found segments
  have bytes := covered.bytes
  omega

theorem rotated (covered : queue.Covered) (payload : Bytes) : (queue.rotated payload).Covered := by
  unfold DiskQueue.rotated
  split_ifs
  · exact covered.started (Nat.lt_succ_self _)
  · exact covered

theorem appended (covered : queue.Covered) (bytes : full.bytes = queue.activeFile.bytes ++ frame payload) :
    (queue.appended payload full).Covered := by
  refine covered.written (recordHeaderLen + payload.length) le_rfl ?_ rfl rfl le_rfl
  change queue.activeFile.len + _ ≤ _
  rw [SegmentFile.len, SegmentFile.len, bytes, List.length_append, length_frame]

theorem cut (covered : queue.Covered) {id : Nat} (bound : id ≤ queue.activeSegmentId)
    (written : queue.Cut id payload later) : later.Covered := by
  obtain ⟨file, piece, -, bytes, rfl⟩ := written
  refine covered.written 0 bound ?_ rfl rfl le_rfl
  rw [SegmentFile.len, SegmentFile.len, bytes, List.length_append]
  omega

theorem ended (covered : queue.Covered) (left : queue.Ended payload later) : later.Covered := by
  cases left with
  | turned rotates room => exact covered.advanced (Nat.lt_succ_self _)
  | unopened room => exact covered.rotated payload
  | cut room written => exact (covered.rotated payload).cut le_rfl written

end DiskQueue.Covered

/-! ### The operations -/

theorem enqueue_covers (payload : Bytes) : Retains DiskQueue.Covered (enqueue payload) := by
  intro ⟨queue, plan⟩ covered
  have enqueues := enqueue_enqueues queue payload plan
  unfold Leaves
  generalize enqueue payload ⟨queue, plan⟩ = result at enqueues ⊢
  cases enqueues with
  | stored small room bytes => exact (covered.rotated payload).appended bytes
  | refused own => exact covered
  | ended small outside left => exact covered.ended left

theorem reads_cover : KeptByReads DiskQueue.Covered where
  aside := by
    intro queue id file suffix covered found
    apply covered.erased found
    · change (queue.dir.renameCorrupt id suffix).segments = _
      rw [Directory.renameCorrupt, found]
    · rfl
    · rfl
  reason := fun _ _ _ covered => covered.congr rfl rfl rfl
  numbered := fun covered above => covered.advanced above
  started := fun covered above => covered.started above

theorem commits_cover : KeptByCommits DiskQueue.Covered where
  moved := fun _ covered => covered.congr rfl rfl rfl
  removed := fun covered found => covered.erased found rfl rfl rfl
  tmp := fun _ covered => covered.congr rfl rfl rfl
  renamed := fun covered => covered.congr rfl rfl rfl

theorem openDir_covered (dir : Directory) (options : DiskQueueOptions) : (DiskQueue.openDir dir options).Covered := by
  refine ⟨openDir_bounded dir options, ?_⟩
  unfold DiskQueue.openDir
  dsimp only
  by_cases present : (dir.segments.find? (dir.segments.keys.max?.getD 1)).isSome = true
  · rw [if_pos present, totalSegmentBytes_keys]
    exact le_rfl
  · rw [if_neg present]
    cases greatest : dir.segments.keys.max? with
    | none =>
      rw [List.max?_eq_none_iff.mp greatest]
      exact Nat.zero_le _
    | some id =>
      rw [greatest, Option.getD_some] at present
      exact absurd ((dir.segments.mem_keys_iff id).mp (List.max?_mem greatest)) present

end TelemetryFabric.Buffer
