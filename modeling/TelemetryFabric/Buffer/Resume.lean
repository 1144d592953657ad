import TelemetryFabric.Buffer.Recovery

/-!
Going on after an interrupted read or drain, with the queue in memory or with the directory
opened again. The records enqueued from then on are returned once and in order, behind
what was readable, whatever the point of interruption, exactly if the active segment of
the queue before the read ends at a record boundary.
-/

namespace TelemetryFabric.Buffer
open Library

/-- The queue that an interrupted operation leaves to its caller, or to the next process. -/
inductive InterruptedAt {α : Type} (program : QueueM α) (queue : DiskQueue) : DiskQueue → Prop where
  | failed {plan rest : List (Option Fault)} {later : DiskQueue}
      (stopped : program ⟨queue, plan⟩ = .error (.raised .io) ⟨later, rest⟩) :
      InterruptedAt program queue later
  | crashed {plan rest : List (Option Fault)} {left : DiskQueue} (options : DiskQueueOptions)
      (stopped : program ⟨queue, plan⟩ = .error .crashed ⟨left, rest⟩) :
      InterruptedAt program queue (.openDir left.dir options)

namespace RunState

/-- A run that starts from a queue as it is. -/
def resumed (queue : DiskQueue) : RunState := ⟨queue, none, [], [], []⟩

/-- Enqueues and cycles of `read_batch` and `commit_batch`. -/
def Cycling (state : RunState) : Operation → Prop
  | .enqueue _ | .commitBatch => True
  | .readBatch _ => state.pending = none
  | .tear _ _ _ | .drain _ _ | .drainBatch _ _ | .reopen _ | .damage _ _ => False

/-- From the queue on, every record enqueued is returned once and in order, behind what is
readable already. -/
def SafeFrom (queue : DiskQueue) : Prop :=
  ∀ state, Reaches step Cycling (resumed queue) state →
    state.delivered ++ (state.outstanding ++ state.queue.readableAt state.front) =
      queue.readable ++ state.stored.map Prod.snd ∧
    (state.pending = none → ∀ sizes, (∀ size ∈ sizes, size ≤ maxBatchItems) →
      ∃ later, cycles sizes ⟨state.queue, []⟩ = .ok (state.queue.readable.take sizes.sum) ⟨later, []⟩)

/-- A run that goes on from a queue whose active segment ends at a record boundary. -/
structure Resumes (queue : DiskQueue) (state : RunState) : Prop where
  shaped : state.queue.Shaped
  within : state.queue.Within state.front
  still : ∀ outstanding, state.pending = some outstanding → outstanding.batch.payloads = [] →
    outstanding.batch.shouldCommit = false → outstanding.batch.nextCursor = state.queue.cursor
  clean : state.queue.EndsClean state.front
  records : state.delivered ++ (state.outstanding ++ state.queue.readableAt state.front) =
    queue.readable ++ state.stored.map Prod.snd

variable {queue : DiskQueue} {state next : RunState}

theorem Resumes.enqueued (resumes : Resumes queue state) {payload : Bytes}
    (taken : state.step (.enqueue payload) = some next) : Resumes queue next := by
  rcases step_enqueue taken with ⟨full, small, room, bytes, rfl⟩ | rfl
  · have bound := resumes.within.2.1
    have front : front { state with
        queue := (state.queue.rotated payload).appended payload full
        stored := state.stored ++ [((state.queue.rotated payload).activeSegmentId, payload)] } =
          state.front := front_congr (cursor_rotated state.queue payload) rfl
    have ahead := aheadAt_enqueued resumes.shaped.topped bound small room bytes (Or.inr resumes.clean)
    refine ⟨resumes.shaped.enqueued room, ?_, ?_, ?_, ?_⟩
    · rw [front]
      refine ⟨?_, bound.trans (activeSegmentId_rotated state.queue payload), resumes.within.2.2⟩
      rw [show ((state.queue.rotated payload).appended payload full).cursor = state.queue.cursor from
        cursor_rotated state.queue payload]
      exact resumes.within.1
    · intro outstanding pending none idle
      rw [resumes.still outstanding pending none idle]
      exact (cursor_rotated state.queue payload).symm
    · rw [front]
      exact endsClean_enqueued bound small bytes (Or.inr resumes.clean)
    · rw [front]
      change _ ++ (state.outstanding ++
        ((state.queue.rotated payload).appended payload full).readableAt state.front) = _
      rw [DiskQueue.readableAt, ahead, List.map_append, ← List.append_assoc, ← List.append_assoc,
        List.append_assoc state.delivered]
      have records := resumes.records
      rw [DiskQueue.readableAt] at records
      rw [records, List.map_append, List.append_assoc]
  · exact resumes

theorem Resumes.read (resumes : Resumes queue state) {maxItems : Nat} (none : state.pending = none)
    (taken : state.step (.readBatch maxItems) = some next) : Resumes queue next := by
  obtain ⟨batch, later, done, took, rfl⟩ := step_readBatch resumes.shaped taken
  have front : state.front = state.queue.cursor := by rw [front, none]
  have empty : state.outstanding = [] := by rw [outstanding, none]
  have clean := resumes.clean
  have records := resumes.records
  rw [front] at clean
  rw [front, empty] at records
  refine ⟨took.shaped, took.within, ?_, took.endsClean clean, ?_⟩
  · intro outstanding same
    cases same
    exact took.still
  · change _ ++ (batch.payloads ++ later.readableAt batch.nextCursor) = _
    rw [took.payloads, took.rest, List.take_append_drop]
    exact records

theorem Resumes.committed (resumes : Resumes queue state) (taken : state.step .commitBatch = some next) :
    Resumes queue next := by
  obtain ⟨outstanding, pending, rfl⟩ := step_commitBatch taken
  have still := resumes.still outstanding pending
  have front : state.front = outstanding.batch.nextCursor := by rw [front, pending]
  have payloads : state.outstanding = outstanding.batch.payloads := by rw [RunState.outstanding, pending]
  have within := resumes.within
  have clean := resumes.clean
  have records := resumes.records
  rw [front] at within clean
  rw [front, payloads] at records
  obtain ⟨active, content, cursor⟩ := activeScan_afterCommit within still
  have shaped := resumes.shaped.afterCommit within
  refine ⟨shaped, shaped.within, (fun _ same => by cases same), ?_, ?_⟩
  · change DiskQueue.EndsClean (state.queue.afterCommit outstanding.batch)
      (state.queue.afterCommit outstanding.batch).cursor
    rw [cursor]
    exact clean.congr active content
  · change (_ ++ _) ++ ([] ++ (state.queue.afterCommit outstanding.batch).readable) = _
    rw [readable_afterCommit still, List.nil_append, List.append_assoc]
    exact records

theorem Resumes.step (resumes : Resumes queue state) {operation : Operation}
    (cycling : state.Cycling operation) (taken : state.step operation = some next) :
    Resumes queue next := by
  cases operation with
  | enqueue payload => exact resumes.enqueued taken
  | readBatch maxItems => exact resumes.read cycling taken
  | commitBatch => exact resumes.committed taken
  | tear payload cut restart => exact absurd cycling id
  | drain maxItems accepts => exact absurd cycling id
  | drainBatch maxItems accepts => exact absurd cycling id
  | reopen options => exact absurd cycling id
  | damage id file => exact absurd cycling (fun no => no)

/-- A queue of the right shape that ends at a record boundary is safe to go on with. -/
theorem safeFrom_of_clean (shaped : queue.Shaped) (clean : queue.EndsClean queue.cursor) :
    SafeFrom queue := by
  intro state reached
  have start : Resumes queue (resumed queue) :=
    ⟨shaped, shaped.within, (fun _ same => by cases same), clean, (List.append_nil _).symm⟩
  have resumes : Resumes queue state := reached.invariant start
    (fun before cycling taken => before.step cycling taken)
  refine ⟨resumes.records, fun none sizes fit => ?_⟩
  have usable : ¬ state.queue.Exhausted := by
    rintro ⟨-, bad⟩
    have ends := resumes.clean.2
    rw [front, none] at ends
    rw [ends] at bad
    cases bad
  obtain ⟨later, done, -⟩ := cycles_take resumes.shaped usable fit
  exact ⟨later, done⟩

/-! ### Points of interruption -/

/-- Opening the directory again takes up the cursor the file holds. -/
theorem recoverable_reopened (recoverable : queue.Recoverable) (options : DiskQueueOptions) :
    (DiskQueue.openDir queue.dir options).Shaped ∧
      (DiskQueue.openDir queue.dir options).EndsClean (DiskQueue.openDir queue.dir options).cursor := by
  obtain ⟨saved, file, positive, bound, small, clean⟩ := recoverable.saved
  have shaped := recoverable.shaped
  have parsed : readCursor queue.dir = some saved := by
    rw [readCursor, file]
    exact parseCursor_cursorText (bound.trans shaped.topped.idFits) small
  have opened : DiskQueue.openDir queue.dir options = { queue with
      dir := { queue.dir with cursor := some (cursorText saved), cursorTmp := none }
      options := options
      activeSegmentBytes := queue.activeFile.len
      queuedBytes := totalSegmentBytes queue.dir queue.dir.segments.keys
      cursor := saved } := by
    simp only [DiskQueue.openDir, shaped.topped.keys_max?, Option.getD_some, shaped.topped.find?_active,
      Option.isSome_some, if_true, parsed]
    rfl
  rw [opened]
  exact ⟨⟨⟨shaped.topped.last, shaped.topped.idFits⟩, ⟨le_rfl, bound, small⟩, positive, shaped.retired,
    shaped.distinct⟩, clean⟩

/-- An operation that keeps the queue recoverable may be interrupted anywhere. -/
theorem safeFrom_of_keeps {α : Type} {program : QueueM α} {post : α → DiskQueue → Prop}
    (keeps : Keeps (fun queue => queue.Recoverable) program post) (start : queue.Recoverable)
    {later : DiskQueue} (interrupted : InterruptedAt program queue later) : SafeFrom later := by
  have left : ∀ {plan rest halt left}, program ⟨queue, plan⟩ = .error halt ⟨left, rest⟩ →
      left.Recoverable := by
    intro plan rest halt left stopped
    have kept := keeps ⟨queue, plan⟩ start
    rw [stopped] at kept
    exact kept
  cases interrupted with
  | failed stopped =>
    have kept := left stopped
    exact safeFrom_of_clean kept.shaped kept.clean
  | crashed options stopped =>
    obtain ⟨shaped, clean⟩ := recoverable_reopened (left stopped) options
    exact safeFrom_of_clean shaped clean

theorem recoverable_of_sound (sound : queue.Sound) (clean : queue.EndsClean queue.cursor) :
    queue.Recoverable :=
  ⟨sound.toShaped, clean, queue.cursor, sound.cursorFile, sound.positive, sound.within.2.1,
    sound.within.2.2, clean⟩

/-- The process dies at the first call of a read step. -/
theorem readStepAt_crash (queue : DiskQueue) (cursor : Cursor) :
    readStepAt cursor ⟨queue, [some (.crash 0)]⟩ = .error .crashed ⟨queue, []⟩ := by
  cases found : queue.dir.segments.find? cursor.segmentId with
  | none => simp [readStepAt, found, nextCursorAfter, nextSegmentAfter, segmentIds, probe, call, nextFault]
  | some file => simp [readStepAt, found, probe, call, nextFault]

theorem readBatch_crash (queue : DiskQueue) {maxItems : Nat} (some : maxItems ≠ 0) (fits : maxItems ≤ maxBatchItems) :
    Buffer.readBatch maxItems ⟨queue, [Option.some (.crash 0)]⟩ = .error .crashed ⟨queue, []⟩ := by
  have wanted : ([] : List Bytes).length < maxItems := Nat.pos_of_ne_zero some
  rw [readBatch_fits some fits, DiskQueue.stepBound, readLoop, if_pos wanted, bind_apply, readStepAt_crash]

theorem drain_crash {σ : Type} (queue : DiskQueue) {maxItems : Nat} (some : maxItems ≠ 0)
    (sink : Sink σ Bytes) (captured : σ) :
    Buffer.drain maxItems sink captured ⟨queue, [Option.some (.crash 0)]⟩ = .error .crashed ⟨queue, []⟩ := by
  have wanted : 0 < maxItems := Nat.pos_of_ne_zero some
  rw [Buffer.drain, bind_apply, getQueue_apply]
  simp only
  rw [DiskQueue.stepBound, drainLoop, if_pos wanted, bind_apply, getQueue_apply]
  simp only [bind_apply, readStepAt_crash]

/-- What is promised of a record that is enqueued right after the interruption. -/
theorem SafeFrom.enqueued {queue : DiskQueue} (safe : SafeFrom queue) {payload : Bytes} {next : RunState}
    (taken : (resumed queue).step (.enqueue payload) = some next) (pending : next.pending = none)
    (delivered : next.delivered = []) :
    next.queue.readable = queue.readable ++ next.stored.map Prod.snd := by
  have cycling : (resumed queue).Cycling (.enqueue payload) := trivial
  have records := (safe next (.after .here cycling taken)).1
  rw [front, outstanding, pending, delivered] at records
  exact records

/-- After a restart that does not rotate, an empty record behind a torn end is lost. -/
theorem not_safeFrom_reopened (sound : queue.Sound) (torn : ¬ queue.EndsClean queue.cursor)
    (room : queue.activeFile.len + recordHeaderLen ≤ maxFileLen) :
    ¬ SafeFrom (.openDir queue.dir ⟨queue.activeFile.len + recordHeaderLen, false⟩) := by
  intro safe
  have opened := sound.openDir_eq ⟨queue.activeFile.len + recordHeaderLen, false⟩
  have shaped := (sound.reopened ⟨queue.activeFile.len + recordHeaderLen, false⟩).toShaped
  generalize DiskQueue.openDir queue.dir ⟨queue.activeFile.len + recordHeaderLen, false⟩ = later
    at safe opened shaped
  have stays : ¬ later.rotates [] := by
    rw [opened]
    rintro ⟨-, full⟩
    exact absurd full (by simp)
  have same : later.rotated [] = later := if_neg stays
  have content : later.activeFile = queue.activeFile := by rw [opened]; rfl
  have room : later.activeFile.len + (frame []).length ≤ maxFileLen := by
    rw [content, length_frame]
    exact room
  obtain ⟨full, bytes, done⟩ := enqueue_calm later [] (Nat.zero_le _)
    (fun rotates => absurd rotates stays) (by rwa [same])
  rw [same] at bytes done
  have taken : (resumed later).step (.enqueue []) = some { resumed later with
      queue := later.appended [] full
      stored := [(later.activeSegmentId, [])] } := by
    simp only [step, resumed, done]
    rfl
  have records := safe.enqueued taken rfl rfl
  have torn : ¬ later.EndsClean later.cursor := by
    rw [opened]
    exact torn
  exact readableAt_hidden shaped.topped shaped.within.2.1 torn bytes records

/-- Wherever the operation is interrupted, going on is safe. -/
def SafeToInterrupt {α : Type} (program : QueueM α) (queue : DiskQueue) : Prop :=
  ∀ later, InterruptedAt program queue later → SafeFrom later

theorem readBatch_zero_uninterrupted {queue later : DiskQueue} :
    ¬ InterruptedAt (Buffer.readBatch 0) queue later := by
  rintro (⟨stopped⟩ | ⟨options, stopped⟩) <;> cases stopped

/-- A read that panics has made no call. -/
theorem readBatch_large_uninterrupted {maxItems : Nat} (large : maxBatchItems < maxItems) {queue later : DiskQueue} :
    ¬ InterruptedAt (Buffer.readBatch maxItems) queue later := by
  rintro (⟨stopped⟩ | ⟨options, stopped⟩)
  · rw [readBatch_panics large] at stopped
    cases stopped
  · rw [readBatch_panics large] at stopped
    cases stopped

theorem drain_zero_uninterrupted {σ : Type} {sink : Sink σ Bytes} {captured : σ} {queue later : DiskQueue} :
    ¬ InterruptedAt (Buffer.drain 0 sink captured) queue later := by
  rintro (⟨stopped⟩ | ⟨options, stopped⟩) <;> cases stopped

/-- `read_batch` and `drain` may be interrupted anywhere if nothing is to be read or the
active segment ends at a record boundary, and `read_batch` also if it panics before its first call.
If none of it holds, and the file can take another record, either of them has a point of interruption
after which a record is lost. -/
theorem safe_to_interrupt_iff {state : RunState} (reachable : state.Reachable) (maxItems : Nat) :
    (maxItems = 0 ∨ state.queue.EndsClean state.queue.cursor →
      SafeToInterrupt (Buffer.readBatch maxItems) state.queue ∧
      ∀ (σ : Type) (sink : Sink σ Bytes) (captured : σ),
        SafeToInterrupt (Buffer.drain maxItems sink captured) state.queue) ∧
    (maxBatchItems < maxItems → SafeToInterrupt (Buffer.readBatch maxItems) state.queue) ∧
    (state.queue.activeFile.len + recordHeaderLen ≤ maxFileLen →
      (SafeToInterrupt (Buffer.readBatch maxItems) state.queue →
        maxItems = 0 ∨ maxBatchItems < maxItems ∨ state.queue.EndsClean state.queue.cursor) ∧
      ∀ (σ : Type) (sink : Sink σ Bytes) (captured : σ),
        SafeToInterrupt (Buffer.drain maxItems sink captured) state.queue →
          maxItems = 0 ∨ state.queue.EndsClean state.queue.cursor) := by
  have sound := reachable.sound.queue
  refine ⟨?_, fun large later interrupted => absurd interrupted (readBatch_large_uninterrupted large), ?_⟩
  · rintro (rfl | clean)
    · exact ⟨fun later interrupted => absurd interrupted readBatch_zero_uninterrupted,
        fun σ sink captured later interrupted => absurd interrupted drain_zero_uninterrupted⟩
    · have start := recoverable_of_sound sound clean
      exact ⟨fun later interrupted => safeFrom_of_keeps (readBatch_keeps maxItems) start interrupted,
        fun σ sink captured later interrupted =>
          safeFrom_of_keeps (drain_keeps maxItems sink captured) start interrupted⟩
  · intro room
    refine ⟨fun safe => ?_, fun σ sink captured safe => ?_⟩
    · by_contra neither
      obtain ⟨some, neither⟩ := not_or.mp neither
      obtain ⟨fits, torn⟩ := not_or.mp neither
      exact not_safeFrom_reopened sound torn room
        (safe _ (.crashed _ (readBatch_crash _ some (Nat.not_lt.mp fits))))
    · by_contra neither
      obtain ⟨some, torn⟩ := not_or.mp neither
      exact not_safeFrom_reopened sound torn room
        (safe _ (.crashed _ (drain_crash _ some sink captured)))

theorem spoiledFile_fits : (frame [1] ++ List.replicate 8 0).length ≤ maxFileLen := by decide

/-- One record, then eight zero bytes: an empty record with a wrong checksum. -/
def spoiledFile : SegmentFile := ⟨frame [1] ++ List.replicate 8 0, spoiledFile_fits⟩

/-- The first record has been delivered when the bytes behind it are spoiled. -/
def spoilingOperations : List Operation :=
  [.enqueue [1], .readBatch 1, .commitBatch, .damage 1 spoiledFile]

def spoiledState : RunState :=
  (run step (start "queue" ⟨100, false⟩) spoilingOperations).getD (start "queue" ⟨100, false⟩)

/-- What a read leaves of it whose reason file cannot be written: the segment is renamed
aside, the active id and the cursor are not moved on. -/
def spoiledQueue : DiskQueue :=
  match Buffer.readBatch 1 ⟨spoiledState.queue, List.replicate 6 none ++ [some (.error 0)]⟩ with
  | .ok _ session => session.queue
  | .error _ session => session.queue

theorem spoiledState_reachable : spoiledState.Reachable := by
  have ran : run step (start "queue" ⟨100, false⟩) spoilingOperations = some spoiledState := by
    decide +kernel
  exact .of_run ran

theorem spoiledState_interrupted :
    InterruptedAt (Buffer.readBatch 1) spoiledState.queue spoiledQueue := by
  have stopped : Buffer.readBatch 1 ⟨spoiledState.queue, List.replicate 6 none ++ [some (.error 0)]⟩ =
      .error (.raised .io) ⟨spoiledQueue, []⟩ := by decide +kernel
  exact .failed stopped

/-- The next record starts a new file under the old id, before the cursor's offset. -/
theorem record_lost_after_interruption :
    ¬ ∀ state : RunState, state.Reachable → ∀ maxItems,
      SafeToInterrupt (Buffer.readBatch maxItems) state.queue := by
  intro safe
  have going := safe spoiledState spoiledState_reachable 1 spoiledQueue spoiledState_interrupted
  have shape : ((resumed spoiledQueue).step (.enqueue [2])).map (fun later =>
      (later.pending, later.delivered, later.queue.readable, later.stored.map Prod.snd)) =
        some (none, [], [], [[2]]) := by decide +kernel
  obtain ⟨later, taken, shape⟩ := Option.map_eq_some_iff.mp shape
  simp only [Prod.mk.injEq] at shape
  obtain ⟨pending, delivered, readable, stored⟩ := shape
  have records := going.enqueued taken pending delivered
  rw [readable, stored] at records
  exact absurd records (by simp)

/-- Two segments, the first one with a wrong checksum in it. -/
def olderSpoiledState : RunState :=
  (run step (start "queue" ⟨0, false⟩) [.enqueue [1], .enqueue [2], .damage 1 spoiledFile]).getD
    (start "queue" ⟨0, false⟩)

theorem safe_to_interrupt_older_spoiled :
    SafeToInterrupt (Buffer.readBatch 2) olderSpoiledState.queue := by
  have ran : run step (start "queue" ⟨0, false⟩) [.enqueue [1], .enqueue [2], .damage 1 spoiledFile] =
      some olderSpoiledState := by decide +kernel
  have clean : olderSpoiledState.queue.EndsClean olderSpoiledState.queue.cursor :=
    ⟨by decide +kernel, by decide +kernel⟩
  exact ((safe_to_interrupt_iff (.of_run ran) 2).1 (Or.inr clean)).1

end RunState

end TelemetryFabric.Buffer
