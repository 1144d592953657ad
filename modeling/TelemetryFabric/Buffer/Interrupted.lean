import TelemetryFabric.Buffer.Run

/-!
What is lost when something is cut short: a batch that is read and then dropped, and an
`enqueue` of which only a part reaches the file. Both are harmless on files that hold
nothing but whole records. A batch read across the end of a damaged segment is not
returned again, and a record appended behind a torn one is never read.
-/

namespace TelemetryFabric.Buffer
open Library

namespace RunState

variable {state next : RunState}

/-! ### Dropped batches -/

/-- In every reachable state, whatever the segments hold, a batch that is not committed is
read again, with the same records behind it, exactly when no segment that ends in a
refused record gave records to it. -/
theorem reads_again_iff (reachable : state.Reachable) {maxItems : Nat} {batch : PendingBatch}
    {later : DiskQueue}
    (read : Buffer.readBatch maxItems ⟨state.queue, []⟩ = .ok batch ⟨later, []⟩) :
    ReadAgain maxItems batch later ↔ state.queue.keepsBatch maxItems = true :=
  readAgain_iff reachable.sound.queue read

/-- One record, then eight zero bytes: an empty record with a wrong checksum. -/
def damagedFile : SegmentFile := ⟨frame [1] ++ List.replicate 8 0, by decide⟩

def damagedState : RunState :=
  (run step (start "queue" ⟨100, false⟩) [.enqueue [1], .damage 1 damagedFile]).getD
    (start "queue" ⟨100, false⟩)

/-- What `read_batch(2)` leaves of it. -/
def readDamagedQueue : DiskQueue :=
  match Buffer.readBatch 2 ⟨damagedState.queue, []⟩ with
  | .ok _ session => session.queue
  | .error _ session => session.queue

theorem damagedState_reachable : damagedState.Reachable := by
  have ran : run step (start "queue" ⟨100, false⟩) [.enqueue [1], .damage 1 damagedFile] =
      some damagedState := by decide +kernel
  exact .of_run ran

theorem damagedState_read : Buffer.readBatch 2 ⟨damagedState.queue, []⟩ =
    .ok ⟨[[1]], ⟨2, 0⟩, true⟩ ⟨readDamagedQueue, []⟩ := by
  decide +kernel

/-- The batch `[[1]]` is read across the end of the damaged segment and is gone. -/
theorem dropped_batch_not_read_again :
    ¬ ∀ state : RunState, state.Reachable → ∀ maxItems batch later,
      Buffer.readBatch maxItems ⟨state.queue, []⟩ = .ok batch ⟨later, []⟩ →
      ∃ again last, Buffer.readBatch maxItems ⟨later, []⟩ = .ok again last ∧
        again.payloads = batch.payloads := by
  intro available
  obtain ⟨again, last, retried, payloads⟩ :=
    available damagedState damagedState_reachable 2 _ _ damagedState_read
  have nothing : Buffer.readBatch 2 ⟨readDamagedQueue, []⟩ =
      .ok ⟨[], ⟨2, 0⟩, true⟩ ⟨readDamagedQueue, []⟩ := by decide +kernel
  rw [nothing] at retried
  cases retried
  cases payloads

theorem reads_again_iff_damaged :
    ReadAgain 2 ⟨[[1]], ⟨2, 0⟩, true⟩ readDamagedQueue ↔ damagedState.queue.keepsBatch 2 = true :=
  reads_again_iff damagedState_reachable damagedState_read

/-! ### Cut-short enqueues -/

/-- No outstanding batch, or one that would be read again. -/
def PendingKept (state : RunState) : Prop := state.pending.all Outstanding.kept = true

/-- The record goes to a file that ends at a record boundary, or to a new one. -/
def Appendable (state : RunState) (payload : Bytes) : Prop :=
  state.queue.rotates payload ∨ (scan state.queue.activeFile.bytes).2 = .clean

/-- Enqueues, whole and cut short, go behind whole records, and no batch is dropped that
would not be read again. -/
def Careful (state : RunState) : Operation → Prop
  | .enqueue payload => state.Appendable payload
  | .tear payload _ restart => state.Appendable payload ∧ (restart.isSome → state.PendingKept)
  | .commitBatch => True
  | .readBatch _ | .drain _ _ | .reopen _ => state.PendingKept
  | .drainBatch maxItems accepts => state.PendingKept ∧
      (accepts (state.queue.readable.take maxItems) = true ∨ state.queue.keepsBatch maxItems = true)
  | .damage _ _ => False

instance (state : RunState) (operation : Operation) : Decidable (state.Careful operation) :=
  match operation with
  | .enqueue _ => inferInstanceAs (Decidable (_ ∨ _))
  | .tear _ _ restart => inferInstanceAs (Decidable ((_ ∨ _) ∧ (restart.isSome = true → _ = _)))
  | .commitBatch => inferInstanceAs (Decidable True)
  | .readBatch _ | .drain _ _ | .reopen _ => inferInstanceAs (Decidable (_ = _))
  | .drainBatch _ _ => inferInstanceAs (Decidable (_ = _ ∧ (_ ∨ _)))
  | .damage _ _ => inferInstanceAs (Decidable False)

/-- Every payload stored is delivered, in the outstanding batch or still readable. -/
structure Unharmed (state : RunState) : Prop extends state.Sound where
  level : state.queue.Level state.queue.cursor
  levelPending : ∀ outstanding, state.pending = some outstanding →
    state.queue.Level outstanding.batch.nextCursor
  front : ∀ outstanding, state.pending = some outstanding →
    state.delivered ++ (outstanding.batch.payloads ++
      state.queue.readableAt outstanding.batch.nextCursor) = state.stored.map Prod.snd
  back : state.PendingKept → state.delivered ++ state.queue.readable = state.stored.map Prod.snd

theorem Unharmed.settled (sound : next.Sound) (level : next.queue.Level next.queue.cursor)
    (none : next.pending = none)
    (records : next.delivered ++ next.queue.readable = next.stored.map Prod.snd) : next.Unharmed := by
  have nothing : ∀ outstanding, next.pending ≠ some outstanding := by
    intro outstanding same
    rw [none] at same
    cases same
  exact ⟨sound, level, fun outstanding same => absurd same (nothing outstanding),
    fun outstanding same => absurd same (nothing outstanding), fun _ => records⟩

theorem start_unharmed (path : String) (options : DiskQueueOptions) : (start path options).Unharmed :=
  .settled (start_sound path options) (.of_start rfl) rfl rfl

/-- An `enqueue` that writes `more` behind whole records adds what can be read of it. -/
theorem Unharmed.written (unharmed : state.Unharmed) {payload more : Bytes} {full : SegmentFile}
    (appendable : state.Appendable payload)
    (room : state.queue.rotates payload → state.queue.activeSegmentId < u64Max)
    (bytes : full.bytes = (state.queue.rotated payload).activeFile.bytes ++ more)
    (segments : next.queue.dir.segments = (state.queue.rotated payload).dir.segments.insert
      (state.queue.rotated payload).activeSegmentId full)
    (active : next.queue.activeSegmentId = (state.queue.rotated payload).activeSegmentId)
    (cursor : next.queue.cursor = state.queue.cursor) (sound : next.Sound)
    (pending : next.pending = state.pending) (delivered : next.delivered = state.delivered)
    (stored : next.stored.map Prod.snd = state.stored.map Prod.snd ++ (scan more).1) :
    next.Unharmed := by
  have topped := unharmed.queue.topped
  have content : next.queue.activeFile = full := by
    rw [DiskQueue.activeFile, active, segments, OrderedMap.find?_insert_self]
    rfl
  have ahead : ∀ target : Cursor, target.segmentId ≤ state.queue.activeSegmentId →
      state.queue.Level target →
      next.queue.readableAt target = state.queue.readableAt target ++ (scan more).1 := by
    intro target bound level
    have seen : state.queue.rotates payload ∨ state.queue.EndsClean target :=
      appendable.imp_right level.endsClean
    rw [DiskQueue.readableAt, aheadAt_written topped bound room bytes seen segments active,
      List.map_append, List.map_map]
    simp [DiskQueue.readableAt, Function.comp_def]
  have level : ∀ target : Cursor, target.segmentId ≤ state.queue.activeSegmentId →
      state.queue.Level target → next.queue.Level target :=
    fun target bound before => before.written bound bytes appendable content active
  have within := unharmed.queue.within.2.1
  refine ⟨sound, ?_, ?_, ?_, ?_⟩
  · rw [cursor]
    exact level _ within unharmed.level
  · intro outstanding same
    rw [pending] at same
    exact level _ (unharmed.pending outstanding same).1.2.1 (unharmed.levelPending outstanding same)
  · intro outstanding same
    rw [pending] at same
    rw [ahead _ (unharmed.pending outstanding same).1.2.1 (unharmed.levelPending outstanding same),
      delivered, stored, ← unharmed.front outstanding same]
    simp
  · intro kept
    have before : state.PendingKept := by
      rw [PendingKept, ← pending]
      exact kept
    rw [DiskQueue.readable, cursor, ahead _ within unharmed.level, delivered, stored,
      ← unharmed.back before]
    simp [DiskQueue.readable]

theorem Unharmed.reopened (unharmed : state.Unharmed) (kept : state.PendingKept)
    (options : DiskQueueOptions) :
    Unharmed { state with queue := .openDir state.queue.dir options, pending := none } := by
  have same := unharmed.queue.openDir_eq options
  refine .settled (.settled (unharmed.queue.reopened options) rfl) ?_ rfl ?_
  · change DiskQueue.Level (DiskQueue.openDir state.queue.dir options) _
    rw [same]
    exact unharmed.level.congr rfl rfl
  · change _ ++ (DiskQueue.openDir state.queue.dir options).readable = _
    rw [same]
    exact unharmed.back kept

theorem step_unharmed (unharmed : state.Unharmed) {operation : Operation}
    (careful : state.Careful operation) (taken : state.step operation = some next) :
    next.Unharmed := by
  have sound := step_sound unharmed.toSound taken
  cases operation with
  | enqueue payload =>
    rcases step_enqueue taken with ⟨full, small, room, bytes, rfl⟩ | rfl
    · refine unharmed.written careful room bytes rfl rfl (cursor_rotated _ _) sound rfl rfl ?_
      rw [scan_one_frame small, List.map_append]
      rfl
    · exact unharmed
  | tear payload cut restart =>
    obtain ⟨torn, tears, outcome⟩ := step_tear taken
    obtain ⟨file, piece, part, proper, bytes, shape⟩ := tears.left
    have stays : Unharmed { state with queue := torn } := by
      refine unharmed.written careful.1 tears.room bytes ?_ ?_ tears.grows.1 ?_ rfl rfl ?_
      · rw [shape]
        rfl
      · rw [shape]
        rfl
      · exact unharmed.toSound.grown (tears.sound unharmed.queue) tears.grows.1 tears.grows.2 rfl
      · rw [scan_torn tears.small part proper, List.append_nil]
    rcases outcome with ⟨-, rfl⟩ | ⟨options, rfl, rfl⟩
    · exact stays
    · exact stays.reopened (careful.2 rfl) options
  | readBatch maxItems =>
    obtain ⟨batch, later, done, took, rfl⟩ := step_readBatch unharmed.queue.toShaped taken
    obtain ⟨level, levelBack⟩ := took.level unharmed.level
    refine ⟨sound, levelBack, ?_, ?_, ?_⟩
    · intro outstanding same
      cases same
      exact level
    · intro outstanding same
      cases same
      rw [took.payloads, took.rest, List.take_append_drop]
      exact unharmed.back careful
    · intro keeps
      change _ ++ later.readable = _
      rw [readable_of_keepsBatch unharmed.queue done keeps]
      exact unharmed.back careful
  | commitBatch =>
    obtain ⟨outstanding, pending, rfl⟩ := step_commitBatch taken
    obtain ⟨within, still⟩ := unharmed.pending outstanding pending
    obtain ⟨active, content, cursor⟩ := activeScan_afterCommit within still
    refine .settled sound ?_ rfl ?_
    · exact (unharmed.levelPending outstanding pending).congr content (by rw [active, cursor])
    · change (_ ++ _) ++ (state.queue.afterCommit outstanding.batch).readable = _
      rw [readable_afterCommit still, List.append_assoc]
      exact unharmed.front outstanding pending
  | reopen options =>
    cases taken
    exact unharmed.reopened careful options
  | drain maxItems accepts =>
    obtain ⟨payloads, later, sofar, rfl⟩ := step_drain unharmed.queue taken
    obtain ⟨tagged, rfl, records⟩ := sofar.records
    refine .settled sound (sofar.level unharmed.level) rfl ?_
    have back := unharmed.back careful
    rw [DiskQueue.readable, DiskQueue.readableAt] at back
    change (_ ++ _) ++ later.ahead.map Prod.snd = _
    rw [List.append_assoc, ← List.map_append, records]
    exact back
  | drainBatch maxItems accepts =>
    obtain ⟨batch, later, done, took, outcome⟩ := step_drainBatch unharmed.queue taken
    obtain ⟨level, levelBack⟩ := took.level unharmed.level
    obtain ⟨active, content, cursor⟩ := activeScan_afterCommit took.within took.still
    have back := unharmed.back careful.1
    rcases outcome with rfl | ⟨refused, rfl⟩
    · refine .settled sound (level.congr content (by rw [active, cursor])) rfl ?_
      change (_ ++ _) ++ (later.afterCommit batch).readable = _
      rw [readable_afterCommit took.still, took.rest, took.payloads, List.append_assoc,
        List.take_append_drop]
      exact back
    · -- the sink has refused the batch, so it must be one that is kept
      have keeps := careful.2.resolve_left (by rw [← took.payloads, refused]; simp)
      refine .settled sound levelBack rfl ?_
      change _ ++ later.readable = _
      rw [readable_of_keepsBatch unharmed.queue done keeps]
      exact back
  | damage id file => exact absurd careful (fun no => no)

/-- In every run whose enqueues go behind whole records and which drops no batch that
would not be read again, each payload whose `enqueue` returned `Ok` is delivered, in the
outstanding batch, or returned unchanged and in order by the cycles to come. -/
theorem careful_run_delivers {path : String} {options : DiskQueueOptions} {state : RunState}
    (reached : Reaches step Careful (start path options) state) :
    (∀ outstanding, state.pending = some outstanding →
      state.delivered ++ (outstanding.batch.payloads ++
        state.queue.readableAt outstanding.batch.nextCursor) = state.stored.map Prod.snd) ∧
    (state.PendingKept →
      state.delivered ++ state.queue.readable = state.stored.map Prod.snd ∧
        (state.queue.Exhausted ∨ ∀ sizes, (∀ size ∈ sizes, size ≤ maxBatchItems) →
          ∃ later, cycles sizes ⟨state.queue, []⟩ =
            .ok (state.queue.readable.take sizes.sum) ⟨later, []⟩)) := by
  have unharmed : state.Unharmed := reached.invariant (start_unharmed path options)
    (fun before careful taken => step_unharmed before careful taken)
  refine ⟨unharmed.front, fun kept => ⟨unharmed.back kept, ?_⟩⟩
  by_cases full : state.queue.Exhausted
  · exact Or.inl full
  · refine Or.inr fun sizes fit => ?_
    obtain ⟨later, done, -⟩ := cycles_take unharmed.queue.toShaped full fit
    exact ⟨later, done⟩

/-- The second record is cut short in its checksum, the process restarts, and the third one
goes behind the five bytes. -/
def tornOperations : List Operation :=
  [.enqueue [1], .tear [7, 7] 5 (some ⟨100, false⟩), .enqueue [2]]

def tornState : RunState :=
  (run step (start "queue" ⟨100, false⟩) tornOperations).getD (start "queue" ⟨100, false⟩)

/-- Only what the program itself does, and enqueues that are cut short. -/
def Undamaged (_ : RunState) : Operation → Prop
  | .damage _ _ => False
  | _ => True

theorem tornState_reached : Reaches step Undamaged (start "queue" ⟨100, false⟩) tornState := by
  have ran : run step (start "queue" ⟨100, false⟩) tornOperations = some tornState := by decide +kernel
  refine .of_run ?_ ran
  intro operation member state
  simp only [tornOperations, List.mem_cons, List.not_mem_nil, or_false] at member
  rcases member with rfl | rfl | rfl <;> trivial

/-- The third record was stored and is not returned. -/
theorem torn_append_not_returned :
    ¬ ∀ state : RunState, Reaches step Undamaged (start "queue" ⟨100, false⟩) state →
      state.pending = none → ∃ sizes later, cycles sizes ⟨state.queue, []⟩ = .ok
        ((state.stored.map Prod.snd).drop state.delivered.length) ⟨later, []⟩ := by
  intro returned
  obtain ⟨sizes, later, done⟩ := returned tornState tornState_reached (by decide +kernel)
  have sound : tornState.queue.Sound :=
    (tornState_reached.invariant (start_sound _ _) (fun kept _ taken => step_sound kept taken)).queue
  have usable : ¬ tornState.queue.Exhausted := fun full => absurd full.1 (by decide +kernel)
  obtain ⟨last, all, -⟩ := cycles_take sound.toShaped usable (fit_of_cycles done)
  have readable : tornState.queue.readable = [[1]] := by decide +kernel
  have stored : (tornState.stored.map Prod.snd).drop tornState.delivered.length = [[1], [2]] := by
    decide +kernel
  rw [done, stored, readable] at all
  have lengths : ([[1], [2]] : List Bytes) = [[1]].take sizes.sum := by
    injection all
  have count := congrArg List.length lengths
  rw [List.length_take] at count
  simp at count
  omega

/-- The same torn record is harmless when the next one rotates to a new segment. -/
def rotatedOperations : List Operation :=
  [.enqueue [1], .tear [7, 7] 5 (some ⟨10, false⟩), .enqueue [2]]

theorem careful_run_delivers_rotated :
    ∃ state, Reaches step Careful (start "queue" ⟨100, false⟩) state ∧
      state.delivered ++ state.queue.readable = [[1], [2]] := by
  have checked : (run (fun state operation => if state.Careful operation then step state operation
      else none) (start "queue" ⟨100, false⟩) rotatedOperations).map (fun state =>
        (state.pending, state.stored.map Prod.snd)) = some (none, [[1], [2]]) := by decide +kernel
  obtain ⟨state, ran, shape⟩ := Option.map_eq_some_iff.mp checked
  obtain ⟨pending, stored⟩ := Prod.mk.inj shape
  have reached := Reaches.of_checked_run ran
  have kept : state.PendingKept := by
    rw [PendingKept, pending]
    rfl
  exact ⟨state, reached, ((careful_run_delivers reached).2 kept).1.trans stored⟩

end RunState

end TelemetryFabric.Buffer
