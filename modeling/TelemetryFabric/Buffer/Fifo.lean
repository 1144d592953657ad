import TelemetryFabric.Buffer.Pristine
import TelemetryFabric.Buffer.Run
import TelemetryFabric.Library.Fifo

/-!
As long as the file system does what it is told and nobody touches the segment files, the
disk queue is a first-in first-out list: `read_batch` shows its head without changing
anything, committing takes what was shown, and a restart keeps everything. A `read_batch` of more
payloads than a vector can hold panics instead.
-/

namespace TelemetryFabric.Buffer
open Library

/-! ### The queue as a list -/

/-- Neither a cut-short write nor damage to the files. -/
def Operation.healthy : Operation → Prop
  | .tear _ _ _ => False
  | .damage _ _ => False
  | _ => True

namespace RunState

variable {state next : RunState}

/-- The list the queue stands for: what has been committed, and what is still readable. -/
def fifo (state : RunState) : Fifo Bytes := ⟨state.delivered, state.queue.readable⟩

/-- No segment is damaged, and an outstanding batch is the head of what is readable. -/
structure Healthy (state : RunState) : Prop extends state.Sound where
  intact : state.queue.Intact [] state.queue.cursor
  shown : ∀ outstanding, state.pending = some outstanding →
    state.queue.Intact [] outstanding.batch.nextCursor ∧
      outstanding.batch.payloads ++ state.queue.readableAt outstanding.batch.nextCursor =
        state.queue.readable

theorem start_healthy (path : String) (options : DiskQueueOptions) : (start path options).Healthy := by
  refine ⟨start_sound path options, ?_, ?_⟩
  · intro id file found bound _
    have empty : file = .empty := by
      have member := (OrderedMap.find?_eq_some_iff _ _ _).mp found
      exact congrArg Prod.snd (List.mem_singleton.mp member)
    subst empty
    rw [offsetIn_start id rfl]
    exact ⟨Nat.zero_le _, rfl⟩
  · intro outstanding pending
    cases pending

/-- One step of the queue is one move of the list, and `stored` grows by what is put. -/
def Refines (state next : RunState) : Prop :=
  ∃ added, Fifo.Moves state.fifo (added.map Prod.snd) next.fifo ∧ next.stored = state.stored ++ added

theorem refines_of_taken {payloads rest : List Bytes} (readable : payloads ++ rest = state.queue.readable)
    (delivered : next.delivered = state.delivered ++ payloads) (left : next.queue.readable = rest)
    (stored : next.stored = state.stored) : state.Refines next := by
  refine ⟨[], ?_, by simp [stored]⟩
  have same : next.fifo = ⟨state.fifo.taken ++ payloads, rest⟩ := by
    rw [fifo, delivered, left]
    rfl
  rw [same]
  exact Fifo.Moves.of_prefix readable

theorem refines_of_kept (readable : next.queue.readable = state.queue.readable)
    (delivered : next.delivered = state.delivered) (stored : next.stored = state.stored) :
    state.Refines next := by
  refine ⟨[], ?_, by simp [stored]⟩
  have same : next.fifo = state.fifo := by
    rw [fifo, delivered, readable]
    rfl
  rw [same]
  exact Fifo.Moves.idle state.fifo

theorem enqueue_healthy (healthy : state.Healthy) {payload : Bytes}
    (taken : state.step (.enqueue payload) = some next) : next.Healthy ∧ state.Refines next := by
  have sound := step_sound healthy.toSound taken
  rcases step_enqueue taken with ⟨full, small, room, bytes, rfl⟩ | rfl
  · have topped := healthy.queue.topped
    have unmoved : ((state.queue.rotated payload).appended payload full).cursor = state.queue.cursor :=
      cursor_rotated state.queue payload
    have grown : ((state.queue.rotated payload).appended payload full).readable =
        state.queue.readable ++ [payload] := by
      rw [DiskQueue.readable, unmoved]
      exact (healthy.intact.enqueued topped healthy.queue.within.2.1 small room bytes).2
    refine ⟨⟨sound, ?_, ?_⟩, ?_⟩
    · rw [unmoved]
      exact (healthy.intact.enqueued topped healthy.queue.within.2.1 small room bytes).1
    · intro outstanding pending
      obtain ⟨kept, shown⟩ := healthy.shown outstanding pending
      have bound := (healthy.pending outstanding pending).1.2.1
      obtain ⟨intact, ahead⟩ := kept.enqueued topped bound small room bytes
      refine ⟨intact, ?_⟩
      rw [ahead, grown, ← shown, List.append_assoc]
    · refine ⟨[_], ?_, rfl⟩
      have same : fifo { state with
          queue := (state.queue.rotated payload).appended payload full
          stored := state.stored ++ [((state.queue.rotated payload).activeSegmentId, payload)] } =
            state.fifo.put payload := by
        rw [fifo, grown]
        rfl
      rw [same]
      exact Fifo.Moves.put payload
  · exact ⟨healthy, refines_of_kept rfl rfl rfl⟩

/-- Reading an undamaged queue shows its head and changes nothing. -/
theorem readBatch_shows (healthy : state.Healthy) {maxItems : Nat} (fits : maxItems ≤ maxBatchItems) :
    ∃ batch, Buffer.readBatch maxItems ⟨state.queue, []⟩ = .ok batch ⟨state.queue, []⟩ ∧
      state.queue.Intact [] batch.nextCursor ∧ Took state.queue maxItems batch state.queue := by
  obtain ⟨batch, done, kept⟩ := healthy.intact.readBatch_eq fits
  exact ⟨batch, done, kept, Took.of_readBatch healthy.queue.toShaped done⟩

theorem intact_afterCommit {queue : DiskQueue} {batch : PendingBatch}
    (intact : queue.Intact [] queue.cursor) (kept : queue.Intact [] batch.nextCursor) :
    (queue.afterCommit batch).Intact [] (queue.afterCommit batch).cursor := by
  unfold DiskQueue.afterCommit
  split_ifs
  · exact kept.committed batch.nextCursor
  · exact intact

/-- Committing an outstanding batch takes from the list what the batch has shown. -/
theorem commit_healthy (healthy : state.Healthy) {outstanding : Outstanding}
    (pending : state.pending = some outstanding) :
    (state.queue.afterCommit outstanding.batch).Intact []
        (state.queue.afterCommit outstanding.batch).cursor ∧
      outstanding.batch.payloads ++ (state.queue.afterCommit outstanding.batch).readable =
        state.queue.readable := by
  obtain ⟨kept, shown⟩ := healthy.shown outstanding pending
  refine ⟨intact_afterCommit healthy.intact kept, ?_⟩
  rw [readable_afterCommit (healthy.pending outstanding pending).2]
  exact shown

theorem step_healthy (healthy : state.Healthy) {operation : Operation} (allowed : operation.healthy)
    (taken : state.step operation = some next) : next.Healthy ∧ state.Refines next := by
  have sound := step_sound healthy.toSound taken
  have settled : next.queue.Intact [] next.queue.cursor → next.pending = none → next.Healthy :=
    fun intact none => ⟨sound, intact, fun outstanding same => by rw [none] at same; cases same⟩
  cases operation with
  | enqueue payload => exact enqueue_healthy healthy taken
  | tear payload cut restart => exact absurd allowed id
  | damage id file => exact absurd allowed (fun no => no)
  | readBatch maxItems =>
    obtain ⟨batch, later, done, took, rfl⟩ := step_readBatch healthy.queue.toShaped taken
    obtain ⟨same, unchanged, kept, -⟩ := readBatch_shows healthy (fits_of_readBatch done)
    rw [done] at unchanged
    cases unchanged
    refine ⟨⟨sound, healthy.intact, ?_⟩, refines_of_kept rfl rfl rfl⟩
    intro outstanding pending
    cases pending
    refine ⟨kept, ?_⟩
    rw [took.payloads, took.rest, List.take_append_drop]
  | commitBatch =>
    obtain ⟨outstanding, pending, rfl⟩ := step_commitBatch taken
    obtain ⟨intact, split⟩ := commit_healthy healthy pending
    exact ⟨settled intact rfl, refines_of_taken split rfl rfl rfl⟩
  | drain maxItems accepts =>
    obtain ⟨payloads, later, sofar, rfl⟩ := step_drain healthy.queue taken
    obtain ⟨tagged, rfl, records⟩ := sofar.records
    refine ⟨settled (sofar.intact [] healthy.intact) rfl, refines_of_taken ?_ rfl rfl rfl⟩
    have readable := congrArg (List.map Prod.snd) records
    rw [List.map_append] at readable
    exact readable
  | drainBatch maxItems accepts =>
    obtain ⟨batch, later, done, took, committed⟩ := step_drainBatch healthy.queue taken
    obtain ⟨same, unchanged, kept, -⟩ := readBatch_shows healthy (fits_of_readBatch done)
    rw [done] at unchanged
    cases unchanged
    rcases committed with rfl | ⟨-, rfl⟩
    · refine ⟨settled (intact_afterCommit healthy.intact kept) rfl, refines_of_taken ?_ rfl rfl rfl⟩
      rw [readable_afterCommit took.still, took.payloads, took.rest, List.take_append_drop]
    · exact ⟨settled healthy.intact rfl, refines_of_kept rfl rfl rfl⟩
  | reopen options =>
    cases taken
    have same := healthy.queue.openDir_eq options
    have intact : (DiskQueue.openDir state.queue.dir options).Intact []
        (DiskQueue.openDir state.queue.dir options).cursor := by
      rw [same]
      exact healthy.intact
    refine ⟨settled intact rfl, refines_of_kept ?_ rfl rfl⟩
    change (DiskQueue.openDir state.queue.dir options).readable = _
    rw [same]
    rfl

/-- What has been taken and what waits is what was put. -/
structure Follows (state : RunState) : Prop where
  healthy : state.Healthy
  history : state.fifo.history = state.stored.map Prod.snd

theorem start_follows (path : String) (options : DiskQueueOptions) : (start path options).Follows :=
  ⟨start_healthy path options, rfl⟩

theorem step_follows (follows : state.Follows) {operation : Operation} (allowed : operation.healthy)
    (taken : state.step operation = some next) : next.Follows := by
  obtain ⟨healthy, added, moves, stored⟩ := step_healthy follows.healthy allowed taken
  refine ⟨healthy, ?_⟩
  rw [moves.history_eq, follows.history, stored, List.map_append]

/-- In every run without I/O errors and damage, from an empty directory and with any
restarts, the payloads committed and the payloads still readable are the payloads
enqueued, in order, and a `read_batch` returns the first of the readable ones if and only if
a vector can hold as many payloads as it asks for. -/
theorem refines_fifo {path : String} {options : DiskQueueOptions} {state : RunState}
    (reached : Reaches step (fun _ operation => operation.healthy) (start path options) state) :
    state.delivered ++ state.queue.readable = state.stored.map Prod.snd ∧
      ∀ maxItems, (∃ batch session, Buffer.readBatch maxItems ⟨state.queue, []⟩ = .ok batch session ∧
        batch.payloads = state.queue.readable.take maxItems) ↔ maxItems ≤ maxBatchItems := by
  have follows : state.Follows := reached.invariant (start_follows path options)
    (fun kept allowed taken => step_follows kept allowed taken)
  refine ⟨follows.history, fun maxItems => ⟨?_, fun fits => ?_⟩⟩
  · rintro ⟨batch, session, done, -⟩
    exact fits_of_readBatch done
  · obtain ⟨batch, done, -, took⟩ := readBatch_shows follows.healthy fits
    exact ⟨batch, _, done, took.payloads⟩

/-- Three records over two segments, one batch committed behind a later enqueue, a restart
with other options, and two more reads, the second refused by its sink. -/
def exampleOperations : List Operation :=
  [.enqueue [1], .enqueue [2, 3], .readBatch 1, .enqueue [4], .commitBatch, .reopen ⟨0, true⟩,
    .drain 1 (fun _ _ => true), .drainBatch 2 (fun _ => false)]

theorem refines_fifo_example :
    ∃ state, run step (start "queue" ⟨20, false⟩) exampleOperations = some state ∧
      state.delivered ++ state.queue.readable = [[1], [2, 3], [4]] := by
  obtain ⟨state, ran⟩ := Option.isSome_iff_exists.mp
    (show (run step (start "queue" ⟨20, false⟩) exampleOperations).isSome = true by decide +kernel)
  have stored : (run step (start "queue" ⟨20, false⟩) exampleOperations).map
      (fun state => state.stored.map Prod.snd) = some [[1], [2, 3], [4]] := by decide +kernel
  have permitted : ∀ operation ∈ exampleOperations, RunState → operation.healthy := by
    intro operation member _
    simp only [exampleOperations, List.mem_cons, List.not_mem_nil, or_false] at member
    rcases member with rfl | rfl | rfl | rfl | rfl | rfl | rfl | rfl <;> trivial
  have reached := Reaches.of_run permitted ran
  rw [ran, Option.map_some, Option.some.injEq] at stored
  exact ⟨state, ran, (refines_fifo reached).1.trans stored⟩

/-- One record waits, and a batch of `2 ^ 63` payloads is asked for. -/
theorem large_batch_not_returned :
    ∃ state, run step (start "queue" ⟨20, false⟩) [.enqueue [1]] = some state ∧
      state.queue.readable = [[1]] ∧
      ¬ ∃ batch session, Buffer.readBatch (2 ^ 63) ⟨state.queue, []⟩ = .ok batch session := by
  obtain ⟨state, ran⟩ := Option.isSome_iff_exists.mp
    (show (run step (start "queue" ⟨20, false⟩) [.enqueue [1]]).isSome = true by decide +kernel)
  have waits : (run step (start "queue" ⟨20, false⟩) [.enqueue [1]]).map
      (fun state => state.queue.readable) = some [[1]] := by decide +kernel
  rw [ran, Option.map_some, Option.some.injEq] at waits
  refine ⟨state, ran, waits, ?_⟩
  rintro ⟨batch, session, done⟩
  exact absurd (fits_of_readBatch done) (by decide)

end RunState

end TelemetryFabric.Buffer
