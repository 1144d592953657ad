import Mathlib.Algebra.Order.BigOperators.Group.List
import TelemetryFabric.Buffer.Batch
import TelemetryFabric.Buffer.Run

/-!
The byte counters. On any directory, whatever its cursor file says and whatever its
segments hold, `queued_bytes` is the size of the segment files and `active_segment_bytes`
that of the active one, as long as the segment with the largest id there is is not renamed
aside.
-/

namespace TelemetryFabric.Buffer
open Library

def Directory.segmentBytes (dir : Directory) : Nat := dir.segments.valueSum SegmentFile.len

/-- Every id on disk was parsed as a `u64`. -/
def Directory.Parsed (dir : Directory) : Prop := ∀ id ∈ dir.segments.keys, id ≤ u64Max

structure DiskQueue.Balanced (queue : DiskQueue) : Prop where
  topped : queue.Topped
  queued : queue.queuedBytes = queue.dir.segmentBytes
  active : queue.activeSegmentBytes = queue.activeFile.len

theorem totalSegmentBytes_keys (dir : Directory) :
    totalSegmentBytes dir dir.segments.keys = dir.segmentBytes := by
  unfold totalSegmentBytes Directory.segmentBytes OrderedMap.valueSum OrderedMap.keys
  rw [List.map_map]
  congr 1
  apply List.map_congr_left
  intro entry member
  have found := (dir.segments.find?_eq_some_iff entry.1 entry.2).mpr member
  simp [found]

/-- Whatever is in the directory, `open` counts it. -/
theorem openDir_balanced {dir : Directory} (parsed : dir.Parsed) (options : DiskQueueOptions) :
    (DiskQueue.openDir dir options).Balanced := by
  cases greatest : dir.segments.keys.max? with
  | none =>
    have nothing : dir.segments.keys = [] := List.max?_eq_none_iff.mp greatest
    have entries : dir.segments.entries = [] := List.map_eq_nil_iff.mp nothing
    have absent : dir.segments.find? 1 = none := by
      rw [OrderedMap.find?_eq_none_iff, nothing]
      exact List.not_mem_nil
    have listing : (dir.createSegment 1).segments.entries = [(1, .empty)] := by
      simp [Directory.createSegment, entries, OrderedMap.place]
    refine ⟨⟨⟨[], .empty, ?_⟩, ?_⟩, ?_, ?_⟩
    · simp only [DiskQueue.openDir, greatest, Option.getD_none, absent]
      exact listing
    · simp only [DiskQueue.openDir, greatest, Option.getD_none]
      decide
    · simp only [DiskQueue.openDir, greatest, Option.getD_none, absent]
      rw [nothing]
      change 0 = ((dir.createSegment 1).segments.entries.map fun entry => entry.2.len).sum
      rw [listing]
      rfl
    · simp only [DiskQueue.openDir, DiskQueue.activeFile, greatest, Option.getD_none, absent]
      rfl
  | some active =>
    obtain ⟨member, upper⟩ := List.max?_eq_some_iff.mp greatest
    obtain ⟨file, found⟩ := Option.isSome_iff_exists.mp ((dir.segments.mem_keys_iff active).mp member)
    refine ⟨⟨⟨dir.segments.below active, file, ?_⟩, ?_⟩, ?_, ?_⟩
    · simp only [DiskQueue.openDir, greatest, Option.getD_some, found]
      refine dir.segments.entries_of_greatest found ?_
      intro entry inside
      exact upper entry.1 (List.mem_map_of_mem inside)
    · simp only [DiskQueue.openDir, greatest, Option.getD_some]
      exact parsed active member
    · simp only [DiskQueue.openDir, greatest, Option.getD_some, found]
      exact totalSegmentBytes_keys dir
    · simp only [DiskQueue.openDir, DiskQueue.activeFile, greatest, Option.getD_some, found]
      rfl

theorem segmentBytes_erased {queue later : DiskQueue} {id : Nat} {file : SegmentFile}
    (found : queue.dir.segments.find? id = some file) (segments : later.dir.segments = queue.dir.segments.erase id) :
    later.dir.segmentBytes + file.len = queue.dir.segmentBytes := by
  rw [Directory.segmentBytes, segments]
  exact queue.dir.segments.valueSum_erase SegmentFile.len found

namespace DiskQueue.Balanced

variable {queue later : DiskQueue} {cursor : Cursor}

/-- No selection of segment files is larger than the counter, so that no subtraction of
their sizes stops short at zero. -/
theorem le_queued (balanced : queue.Balanced) {files : List (Nat × SegmentFile)}
    (some : files.Sublist queue.dir.segments.entries) :
    (files.map fun entry => entry.2.len).sum ≤ queue.queuedBytes := by
  rw [balanced.queued]
  exact (some.map _).sum_le_sum (fun _ _ => Nat.zero_le _)

theorem startSegment_segmentBytes {id : Nat} (absent : queue.dir.segments.find? id = none) :
    (queue.startSegment id).dir.segmentBytes = queue.dir.segmentBytes := by
  have sums := queue.dir.segments.valueSum_insert SegmentFile.len id .empty
  rw [absent] at sums
  exact sums

/-- One `read_step_at` keeps the counters right, even where it renames a segment aside. -/
theorem stepsTo (balanced : queue.Balanced) {step : ReadStep} (steps : StepsTo queue cursor step later) :
    later.Balanced ∧ queue.activeSegmentId ≤ later.activeSegmentId ∧
      ∀ next, step.target = some next → next.segmentId ≤ later.activeSegmentId := by
  have above : ∀ {segments : OrderedMap Nat SegmentFile} {next : Cursor},
      (∀ entry ∈ segments.entries, entry.1 ≤ queue.activeSegmentId) →
      (moveOrEmpty ((segments.above cursor.segmentId).head?.map (fun entry => ⟨entry.1, 0⟩))).target =
        some next → next.segmentId ≤ queue.activeSegmentId := by
    intro segments next bound moved
    cases listing : segments.above cursor.segmentId with
    | nil => simp [listing, moveOrEmpty, ReadStep.target] at moved
    | cons head rest =>
      simp only [listing, List.head?_cons, Option.map_some, moveOrEmpty, ReadStep.target,
        Option.some.injEq] at moved
      subst moved
      have member : head ∈ segments.above cursor.segmentId := by simp [listing]
      exact bound head (List.mem_filter.mp member).1
  have listed : ∀ entry ∈ queue.dir.segments.entries, entry.1 ≤ queue.activeSegmentId :=
    fun entry member => balanced.topped.le_active member
  cases steps with
  | missing absent => exact ⟨balanced, le_rfl, fun next moved => above listed moved⟩
  | record file payload found parsed =>
    refine ⟨balanced, le_rfl, ?_⟩
    intro next moved
    cases moved
    exact listed _ ((queue.dir.segments.find?_eq_some_iff _ _).mp found)
  | finished file found parsed active => exact ⟨balanced, le_rfl, fun next moved => (by cases moved)⟩
  | leave file found parsed older => exact ⟨balanced, le_rfl, fun next moved => above listed moved⟩
  | quarantine file suffix reason found parsed free older =>
    have bytes := segmentBytes_erased found (@setAside_segments _ _ suffix _ reason found)
    refine ⟨⟨balanced.topped.setAside suffix reason found older, ?_, ?_⟩, le_rfl,
      fun next moved => above listed moved⟩
    · have queued := balanced.queued
      change queue.queuedBytes - file.len = _
      omega
    · rw [activeFile_setAside suffix reason found older]
      exact balanced.active
  | replace file suffix reason found parsed free active room =>
    have here := balanced.topped.segmentId_eq_active found active
    rw [here] at found room ⊢
    have bytes := segmentBytes_erased found (@setAside_segments _ _ suffix _ reason found)
    have absent : (queue.setAside queue.activeSegmentId suffix file reason).dir.segments.find?
        (queue.activeSegmentId + 1) = none := by
      rw [setAside_segments found, OrderedMap.find?_erase, if_neg (Nat.succ_ne_self _),
        OrderedMap.find?_eq_none_iff]
      intro member
      obtain ⟨entry, inside, same⟩ := List.mem_map.mp member
      have bound := listed entry inside
      omega
    refine ⟨⟨balanced.topped.replaced suffix reason found room, ?_, ?_⟩, Nat.le_succ _, ?_⟩
    · have queued := balanced.queued
      rw [startSegment_segmentBytes absent]
      change queue.queuedBytes - file.len = _
      omega
    · rw [activeFile_startSegment]
      rfl
    · intro next moved
      cases moved
      exact le_rfl

theorem committed (balanced : queue.Balanced) (bound : cursor.segmentId ≤ queue.activeSegmentId) :
    (queue.committed cursor).Balanced := by
  refine ⟨balanced.topped.committed bound, ?_, ?_⟩
  · have sums := queue.dir.segments.valueSum_partition SegmentFile.len cursor.segmentId
    have queued := balanced.queued
    rw [Directory.segmentBytes] at queued
    change queue.queuedBytes - ((queue.dir.segments.below cursor.segmentId).map fun entry => entry.2.len).sum =
      ((queue.dir.segments.since cursor.segmentId).map fun entry => entry.2.len).sum
    omega
  · rw [activeFile_committed queue bound]
    exact balanced.active

theorem rotated (balanced : queue.Balanced) {payload : Bytes}
    (room : queue.rotates payload → queue.activeSegmentId < u64Max) : (queue.rotated payload).Balanced := by
  have topped := balanced.topped.rotated room
  unfold DiskQueue.rotated at topped ⊢
  split_ifs at topped ⊢ with rotates
  · have absent : queue.dir.segments.find? (queue.activeSegmentId + 1) = none := by
      rw [OrderedMap.find?_eq_none_iff]
      intro member
      obtain ⟨entry, inside, same⟩ := List.mem_map.mp member
      have bound := balanced.topped.le_active inside
      omega
    refine ⟨topped, ?_, ?_⟩
    · rw [startSegment_segmentBytes absent]
      exact balanced.queued
    · rw [activeFile_startSegment]
      rfl
  · exact balanced

theorem enqueued (balanced : queue.Balanced) {payload : Bytes} {full : SegmentFile}
    (room : queue.rotates payload → queue.activeSegmentId < u64Max)
    (bytes : full.bytes = (queue.rotated payload).activeFile.bytes ++ frame payload) :
    ((queue.rotated payload).appended payload full).Balanced := by
  have rotated := balanced.rotated room
  have size : full.len = (queue.rotated payload).activeFile.len + (recordHeaderLen + payload.length) := by
    rw [SegmentFile.len, bytes, List.length_append, length_frame]
    rfl
  have listing : ((queue.rotated payload).appended payload full).dir.segments =
      (queue.rotated payload).dir.segments.insert (queue.rotated payload).activeSegmentId full := rfl
  refine ⟨(rotated.topped.rewritten ⟨0, 0⟩ listing rfl).1, ?_, ?_⟩
  · have sums := (queue.rotated payload).dir.segments.valueSum_insert SegmentFile.len
      (queue.rotated payload).activeSegmentId full
    have queued := rotated.queued
    rw [rotated.topped.find?_active] at sums
    simp only [Option.elim_some] at sums
    rw [Directory.segmentBytes] at queued
    change (queue.rotated payload).queuedBytes + (recordHeaderLen + payload.length) =
      ((queue.rotated payload).dir.segments.insert (queue.rotated payload).activeSegmentId full).valueSum _
    omega
  · rw [activeFile_appended, size, ← rotated.active]
    rfl

theorem afterCommit (balanced : queue.Balanced) {batch : PendingBatch}
    (bound : batch.payloads = [] ∧ batch.shouldCommit = false ∨
      batch.nextCursor.segmentId ≤ queue.activeSegmentId) : (queue.afterCommit batch).Balanced := by
  unfold DiskQueue.afterCommit
  split_ifs with moves
  · rcases bound with ⟨none, idle⟩ | bound
    · simp [none, idle] at moves
    · exact balanced.committed bound
  · exact balanced

end DiskQueue.Balanced

/-! ### The last segment -/

/-- A reader at the cursor will not have to replace the segment with the largest id there is. -/
def DiskQueue.Replaceable (queue : DiskQueue) (cursor : Cursor) : Prop :=
  queue.activeSegmentId = u64Max → (queue.activeScan cursor).2.bad = false

instance (queue : DiskQueue) (cursor : Cursor) : Decidable (queue.Replaceable cursor) := by
  unfold DiskQueue.Replaceable
  infer_instance

namespace DiskQueue.Replaceable

variable {queue later : DiskQueue} {cursor next : Cursor}

theorem congr (replaceable : queue.Replaceable cursor) (active : later.activeSegmentId = queue.activeSegmentId)
    (content : later.activeFile = queue.activeFile) : later.Replaceable cursor := by
  unfold DiskQueue.Replaceable DiskQueue.activeScan
  rw [active, content]
  exact replaceable

theorem stepsTo (replaceable : queue.Replaceable cursor) (topped : queue.Topped) {step : ReadStep}
    (steps : StepsTo queue cursor step later) (target : step.target = some next) : later.Replaceable next := by
  rcases steps.active with same | ⟨other, rfl, -, fresh⟩
  · obtain ⟨-, tail⟩ := topped.activeScan_stepsTo steps same
    intro last
    rw [(tail next target).1]
    exact replaceable (same.symm.trans last)
  · cases target
    intro _
    rw [DiskQueue.activeScan, fresh.empty.1]
    simp [SegmentFile.empty, Tail.bad]

theorem at_end (replaceable : queue.Replaceable cursor) (topped : queue.Topped)
    (steps : StepsTo queue cursor .empty later) : later.Replaceable cursor := by
  rcases steps.active with same | ⟨other, moved, -⟩
  · exact replaceable.congr same (topped.activeScan_stepsTo steps same).1
  · cases moved

theorem committed (replaceable : queue.Replaceable cursor) (bound : cursor.segmentId ≤ queue.activeSegmentId) :
    (queue.committed cursor).Replaceable cursor := by
  refine replaceable.congr rfl ?_
  unfold DiskQueue.activeFile
  exact congrArg (fun file => file.getD SegmentFile.empty) (find?_committed queue bound)

/-- Where the last segment is in order, an error of the reader has changed nothing. -/
theorem unchanged (replaceable : queue.Replaceable cursor) (topped : queue.Topped) {session : Session}
    (stuck : StuckAt queue cursor session) : session = ⟨queue, []⟩ := by
  obtain ⟨file, found, refused, taken | ⟨active, full⟩⟩ := stuck.stuck
  · exact stuck.unchanged taken
  · have here := topped.segmentId_eq_active found active
    have content : queue.activeFile = file := by
      rw [DiskQueue.activeFile, ← here, found]
      rfl
    have last : queue.activeSegmentId = u64Max := le_antisymm topped.idFits (by rw [← here]; exact not_lt.mp full)
    have good := replaceable last
    rw [DiskQueue.activeScan, Cursor.offsetIn, if_pos here, content, (scan_refused refused).2] at good
    cases good

end DiskQueue.Replaceable

/-! ### Reading -/

/-- A batch whose commit would leave the cursor in a segment up to the active one. -/
def PendingBatch.Committable (batch : PendingBatch) (queue : DiskQueue) : Prop :=
  batch.payloads = [] ∧ batch.shouldCommit = false ∨ batch.nextCursor.segmentId ≤ queue.activeSegmentId

/-- The loop of `read_batch` with the counters right so far. -/
structure BalancedSoFar (start queue : DiskQueue) (cursor : Cursor) (commit : Bool) (batch : List Bytes) :
    Prop where
  balanced : queue.Balanced
  replaceable : queue.Replaceable cursor
  committable : (⟨batch, cursor, commit⟩ : PendingBatch).Committable queue
  grown : start.activeSegmentId ≤ queue.activeSegmentId

theorem balancedSoFar_invariant (start : DiskQueue) (maxItems : Nat) :
    LoopInvariant maxItems (BalancedSoFar start) where
  record := by
    intro queue cursor commit batch payload next later sofar _ steps
    obtain ⟨balanced, grown, bound⟩ := sofar.balanced.stepsTo steps
    exact ⟨balanced, sofar.replaceable.stepsTo sofar.balanced.topped steps rfl, Or.inr (bound next rfl),
      sofar.grown.trans grown⟩
  move := by
    intro queue cursor commit batch next later sofar _ steps
    obtain ⟨balanced, grown, bound⟩ := sofar.balanced.stepsTo steps
    exact ⟨balanced, sofar.replaceable.stepsTo sofar.balanced.topped steps rfl, Or.inr (bound next rfl),
      sofar.grown.trans grown⟩
  empty := by
    intro queue cursor commit batch later sofar _ steps
    obtain ⟨balanced, grown, -⟩ := sofar.balanced.stepsTo steps
    exact ⟨balanced, sofar.replaceable.at_end sofar.balanced.topped steps,
      sofar.committable.imp_right fun bound => bound.trans grown, sofar.grown.trans grown⟩

theorem readBatch_balanced {queue : DiskQueue} (balanced : queue.Balanced)
    (replaceable : queue.Replaceable queue.cursor) {maxItems : Nat} (fits : maxItems ≤ maxBatchItems) :
    (∃ batch later, readBatch maxItems ⟨queue, []⟩ = .ok batch ⟨later, []⟩ ∧ later.Balanced ∧
      batch.Committable later ∧ queue.activeSegmentId ≤ later.activeSegmentId) ∨
    (∃ message later, readBatch maxItems ⟨queue, []⟩ =
      .error (.raised (.corruptSegment message)) ⟨later, []⟩ ∧ later.Balanced ∧
      queue.activeSegmentId ≤ later.activeSegmentId) := by
  rcases readBatch_rule (balancedSoFar_invariant queue maxItems)
      ⟨balanced, replaceable, Or.inl ⟨rfl, rfl⟩, le_rfl⟩ fits with
    ⟨batch, later, read, sofar, -⟩ | ⟨message, later, failed, current, cursor, commit, batch, sofar, -, stuck⟩
  · exact Or.inl ⟨batch, later, read, sofar.balanced, sofar.committable, sofar.grown⟩
  · obtain rfl := sofar.replaceable.unchanged sofar.balanced.topped stuck
    exact Or.inr ⟨message, current, failed, sofar.balanced, sofar.grown⟩

theorem drain_balanced_invariant {σ : Type} (sink : Sink σ Bytes) (start : DiskQueue) :
    DrainInvariant sink fun queue _ => queue.Balanced ∧ queue.Replaceable queue.cursor ∧
      start.activeSegmentId ≤ queue.activeSegmentId where
  taken := by
    rintro queue captured payload next later after ⟨before, replaceable, already⟩ steps -
    obtain ⟨balanced, grown, bound⟩ := before.stepsTo steps
    exact ⟨balanced.committed (bound next rfl),
      (replaceable.stepsTo before.topped steps rfl).committed (bound next rfl), already.trans grown⟩
  refused := by
    rintro queue captured payload next later after error ⟨before, replaceable, already⟩ steps -
    obtain ⟨rfl, -⟩ := steps.of_record
    exact ⟨before, replaceable, already⟩
  move := by
    rintro queue captured next later ⟨before, replaceable, already⟩ steps
    obtain ⟨balanced, grown, bound⟩ := before.stepsTo steps
    exact ⟨balanced.committed (bound next rfl),
      (replaceable.stepsTo before.topped steps rfl).committed (bound next rfl), already.trans grown⟩
  empty := by
    rintro queue captured later ⟨before, replaceable, already⟩ steps
    obtain ⟨balanced, grown, -⟩ := before.stepsTo steps
    refine ⟨balanced, ?_, already.trans grown⟩
    rw [steps.unmoved]
    exact replaceable.at_end before.topped steps

theorem drain_balanced {σ : Type} {queue : DiskQueue} (balanced : queue.Balanced)
    (replaceable : queue.Replaceable queue.cursor) (maxItems : Nat) (sink : Sink σ Bytes) (captured : σ) :
    (∃ result later, drain maxItems sink captured ⟨queue, []⟩ = .ok result ⟨later, []⟩ ∧ later.Balanced ∧
      queue.activeSegmentId ≤ later.activeSegmentId) ∨
    (∃ message later, drain maxItems sink captured ⟨queue, []⟩ =
      .error (.raised (.corruptSegment message)) ⟨later, []⟩ ∧ later.Balanced ∧
      queue.activeSegmentId ≤ later.activeSegmentId) := by
  rcases drain_rule (drain_balanced_invariant sink queue) maxItems ⟨balanced, replaceable, le_rfl⟩ with
    ⟨outcome, after, later, done, kept, -, grown⟩ |
      ⟨message, later, failed, current, after, ⟨kept, still, grown⟩, stuck⟩
  · exact Or.inl ⟨_, later, done, kept, grown⟩
  · obtain rfl := still.unchanged kept.topped stuck
    exact Or.inr ⟨message, current, failed, kept, grown⟩

theorem drainBatch_balanced {σ : Type} {queue : DiskQueue} (balanced : queue.Balanced)
    (replaceable : queue.Replaceable queue.cursor) {maxItems : Nat} (fits : maxItems ≤ maxBatchItems)
    (sink : Sink σ (List Bytes)) (captured : σ) :
    (∃ result later, drainBatch maxItems sink captured ⟨queue, []⟩ = .ok result ⟨later, []⟩ ∧ later.Balanced ∧
      queue.activeSegmentId ≤ later.activeSegmentId) ∨
    (∃ message later, drainBatch maxItems sink captured ⟨queue, []⟩ =
      .error (.raised (.corruptSegment message)) ⟨later, []⟩ ∧ later.Balanced ∧
      queue.activeSegmentId ≤ later.activeSegmentId) := by
  rcases readBatch_balanced balanced replaceable fits with
    ⟨batch, later, read, kept, committable, grown⟩ | ⟨message, later, failed, kept, grown⟩
  · have committed := kept.afterCommit committable
    have same : (later.afterCommit batch).activeSegmentId = later.activeSegmentId := by
      unfold DiskQueue.afterCommit
      split_ifs <;> rfl
    simp only [drainBatch, bind_apply, read]
    split_ifs with none
    · refine Or.inl ⟨(.ok 0, captured), _, ?_, committed, grown.trans same.ge⟩
      simp only [bind_apply, commitBatch_eq, pure_apply]
    · cases sink captured batch.payloads with
      | mk outcome after =>
        cases outcome with
        | error error => exact Or.inl ⟨_, _, rfl, kept, grown⟩
        | ok done =>
          refine Or.inl ⟨(.ok batch.payloads.length, after), _, ?_, committed, grown.trans same.ge⟩
          simp only [bind_apply, commitBatch_eq, pure_apply]
  · refine Or.inr ⟨message, later, ?_, kept, grown⟩
    simp only [drainBatch, bind_apply, failed]

/-! ### Runs -/

/-- A queue with all the batches its process has read, any of which may still be
committed. -/
structure LedgerState where
  queue : DiskQueue
  batches : List PendingBatch
  deriving DecidableEq

inductive LedgerOperation where
  | enqueue (payload : Bytes)
  | readBatch (maxItems : Nat)
  | commitBatch (index : Nat)
  | drain (maxItems : Nat) (accepts : List Bytes → Bytes → Bool)
  | drainBatch (maxItems : Nat) (accepts : List Bytes → Bool)
  | reopen (options : DiskQueueOptions)

/-- What an operation leaves when it returns, with a value or with an error other than that
of a file-system call. -/
def settled {α : Type} : EStateM.Result Halt Session α → Option (Option α × DiskQueue)
  | .ok value session => some (some value, session.queue)
  | .error (.raised .io) _ => none
  | .error (.raised _) session => some (none, session.queue)
  | .error _ _ => none

namespace LedgerState

def start (dir : Directory) (options : DiskQueueOptions) : LedgerState := ⟨.openDir dir options, []⟩

def step (state : LedgerState) : LedgerOperation → Option LedgerState
  | .enqueue payload =>
      (settled (Buffer.enqueue payload ⟨state.queue, []⟩)).map fun left => { state with queue := left.2 }
  | .readBatch maxItems =>
      (settled (Buffer.readBatch maxItems ⟨state.queue, []⟩)).map fun left =>
        ⟨left.2, state.batches ++ left.1.toList⟩
  | .commitBatch index =>
      state.batches[index]?.bind fun batch =>
        (settled (Buffer.commitBatch batch ⟨state.queue, []⟩)).map fun left => { state with queue := left.2 }
  | .drain maxItems accepts =>
      (settled (Buffer.drain maxItems (keepingSink accepts) [] ⟨state.queue, []⟩)).map fun left =>
        { state with queue := left.2 }
  | .drainBatch maxItems accepts =>
      (settled (Buffer.drainBatch maxItems (keepingBatchSink accepts) [] ⟨state.queue, []⟩)).map fun left =>
        { state with queue := left.2 }
  | .reopen options => some ⟨.openDir state.queue.dir options, []⟩

/-- No operation reads into a refused record of the last segment there can be. -/
def Replaces (state : LedgerState) : LedgerOperation → Prop
  | .readBatch _ | .drain _ _ | .drainBatch _ _ => state.queue.Replaceable state.queue.cursor
  | _ => True

instance (state : LedgerState) (operation : LedgerOperation) : Decidable (state.Replaces operation) := by
  unfold Replaces
  split <;> infer_instance

structure Balanced (state : LedgerState) : Prop where
  queue : state.queue.Balanced
  batches : ∀ batch ∈ state.batches, batch.Committable state.queue

namespace Balanced

variable {state next : LedgerState} {queue : DiskQueue}

theorem grown (balanced : state.Balanced) (kept : queue.Balanced)
    (bound : state.queue.activeSegmentId ≤ queue.activeSegmentId) :
    ({ state with queue := queue } : LedgerState).Balanced :=
  ⟨kept, fun batch member => (balanced.batches batch member).imp_right fun within => within.trans bound⟩

theorem step (balanced : state.Balanced) {operation : LedgerOperation} (replaces : state.Replaces operation)
    (taken : state.step operation = some next) : next.Balanced := by
  cases operation with
  | enqueue payload =>
    rcases enqueue_cases state.queue payload with
      ⟨full, -, room, bytes, done⟩ | ⟨error, other, refused⟩ | ⟨later, failed⟩
    · simp only [LedgerState.step, done, settled, Option.map_some, Option.some.injEq] at taken
      subst taken
      exact balanced.grown (balanced.queue.enqueued room bytes) (activeSegmentId_rotated state.queue payload)
    · cases error with
      | io => exact absurd rfl other
      | _ =>
        simp only [LedgerState.step, refused, settled, Option.map_some, Option.some.injEq] at taken
        subst taken
        exact balanced
    · simp [LedgerState.step, failed, settled] at taken
  | readBatch maxItems =>
    have fits : maxItems ≤ maxBatchItems := by
      by_contra large
      simp [LedgerState.step, readBatch_panics (Nat.not_le.mp large), settled] at taken
    rcases readBatch_balanced balanced.queue replaces fits with
      ⟨batch, later, read, kept, committable, bound⟩ | ⟨message, later, failed, kept, bound⟩
    · simp only [LedgerState.step, read, settled, Option.map_some, Option.some.injEq] at taken
      subst taken
      refine ⟨kept, ?_⟩
      intro other member
      rcases List.mem_append.mp member with old | new
      · exact (balanced.grown kept bound).batches other old
      · obtain rfl := List.mem_singleton.mp new
        exact committable
    · simp only [LedgerState.step, failed, settled, Option.map_some, Option.toList_none, List.append_nil,
        Option.some.injEq] at taken
      subst taken
      exact balanced.grown kept bound
  | commitBatch index =>
    obtain ⟨batch, found, done⟩ := Option.bind_eq_some_iff.mp taken
    have member := List.mem_of_getElem? found
    simp only [commitBatch_eq, settled, Option.map_some, Option.some.injEq] at done
    subst done
    refine balanced.grown (balanced.queue.afterCommit (balanced.batches batch member)) ?_
    unfold DiskQueue.afterCommit
    split_ifs <;> exact le_rfl
  | drain maxItems accepts =>
    rcases drain_balanced balanced.queue replaces maxItems (keepingSink accepts) [] with
      ⟨result, later, done, kept, bound⟩ | ⟨message, later, failed, kept, bound⟩
    · simp only [LedgerState.step, done, settled, Option.map_some, Option.some.injEq] at taken
      subst taken
      exact balanced.grown kept bound
    · simp only [LedgerState.step, failed, settled, Option.map_some, Option.some.injEq] at taken
      subst taken
      exact balanced.grown kept bound
  | drainBatch maxItems accepts =>
    have fits : maxItems ≤ maxBatchItems := by
      by_contra large
      simp [LedgerState.step, drainBatch_panics (Nat.not_le.mp large), settled] at taken
    rcases drainBatch_balanced balanced.queue replaces fits (keepingBatchSink accepts) [] with
      ⟨result, later, done, kept, bound⟩ | ⟨message, later, failed, kept, bound⟩
    · simp only [LedgerState.step, done, settled, Option.map_some, Option.some.injEq] at taken
      subst taken
      exact balanced.grown kept bound
    · simp only [LedgerState.step, failed, settled, Option.map_some, Option.some.injEq] at taken
      subst taken
      exact balanced.grown kept bound
  | reopen options =>
    cases taken
    refine ⟨openDir_balanced ?_ options, fun batch member => absurd member List.not_mem_nil⟩
    intro id member
    obtain ⟨entry, inside, rfl⟩ := List.mem_map.mp member
    exact (balanced.queue.topped.le_active inside).trans balanced.queue.topped.idFits

end Balanced

/-- In every run, as long as no refused record is met in the last segment there can be. -/
theorem balanced_of_reaches {dir : Directory} (parsed : dir.Parsed) {options : DiskQueueOptions}
    {state : LedgerState} (reached : Reaches step Replaces (start dir options) state) : state.Balanced :=
  reached.invariant ⟨openDir_balanced parsed options, fun _ member => absurd member List.not_mem_nil⟩
    fun balanced replaces taken => balanced.step replaces taken

end LedgerState

end TelemetryFabric.Buffer
