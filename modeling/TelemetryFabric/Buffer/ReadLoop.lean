import TelemetryFabric.Buffer.ReadStep

/-!
The loops of `read_batch` and `drain` when no call fails. Both end within their bound:
every move goes to a later segment, and a replaced active segment is followed by the
empty one created for it. An invariant of the single steps is therefore an invariant
of the whole loop.
-/

namespace TelemetryFabric.Buffer
open Library

/-- The number of segments behind the one the cursor is in. -/
def DiskQueue.segmentsAhead (queue : DiskQueue) (cursor : Cursor) : Nat :=
  (queue.dir.segments.above cursor.segmentId).length

/-- The cursor stands at the start of an empty active segment. -/
def DiskQueue.AtFreshActive (queue : DiskQueue) (cursor : Cursor) : Prop :=
  queue.activeSegmentId = cursor.segmentId ∧ cursor.offset = 0 ∧
    queue.dir.segments.find? cursor.segmentId = some .empty

theorem moveOrEmpty_eq_move {queue : DiskQueue} {id : Nat} {next : Cursor}
    (moved : moveOrEmpty ((queue.dir.segments.above id).head?.map (fun entry => ⟨entry.1, 0⟩)) =
      .move next) :
    ∃ head rest, queue.dir.segments.above id = head :: rest ∧ next = ⟨head.1, 0⟩ := by
  cases listing : queue.dir.segments.above id with
  | nil => simp [listing, moveOrEmpty] at moved
  | cons head rest =>
    simp only [listing, List.head?_cons, Option.map_some, moveOrEmpty, ReadStep.move.injEq] at moved
    exact ⟨head, rest, rfl, moved.symm⟩

theorem ahead_of_move {queue : DiskQueue} {id : Nat} {next : Cursor}
    (moved : moveOrEmpty ((queue.dir.segments.above id).head?.map (fun entry => ⟨entry.1, 0⟩)) =
      .move next) : queue.segmentsAhead next < (queue.dir.segments.above id).length := by
  obtain ⟨head, rest, listing, rfl⟩ := moveOrEmpty_eq_move moved
  rw [DiskQueue.segmentsAhead, queue.dir.segments.above_head_above listing, listing]
  exact Nat.lt_succ_self _

theorem moveOrEmpty_ne_record (target : Option Cursor) (payload : Bytes) (next : Cursor) :
    moveOrEmpty target ≠ .record payload next := by
  cases target <;> simp [moveOrEmpty]

theorem StepsTo.of_record {queue later : DiskQueue} {cursor next : Cursor} {payload : Bytes}
    (steps : StepsTo queue cursor (.record payload next) later) :
    later = queue ∧ next = ⟨cursor.segmentId, cursor.offset + recordHeaderLen + payload.length⟩ ∧
      ∃ file, queue.dir.segments.find? cursor.segmentId = some file ∧
        parseRecord (file.bytes.drop cursor.offset) = .record payload := by
  generalize taken : ReadStep.record payload next = step at steps
  cases steps with
  | missing => exact absurd taken.symm (moveOrEmpty_ne_record _ _ _)
  | record file payload found parsed =>
    cases taken
    exact ⟨rfl, rfl, file, found, parsed⟩
  | finished => cases taken
  | leave => exact absurd taken.symm (moveOrEmpty_ne_record _ _ _)
  | quarantine => exact absurd taken.symm (moveOrEmpty_ne_record _ _ _)
  | replace => cases taken

theorem StepsTo.ahead_lt {queue later : DiskQueue} {cursor next : Cursor}
    (steps : StepsTo queue cursor (.move next) later) :
    later.segmentsAhead next < queue.segmentsAhead cursor ∨ later.AtFreshActive next := by
  generalize moved : ReadStep.move next = step at steps
  cases steps with
  | missing absent => exact Or.inl (ahead_of_move moved.symm)
  | record => cases moved
  | finished => cases moved
  | leave => exact Or.inl (ahead_of_move moved.symm)
  | quarantine file suffix reason found parsed free older =>
    have behind : (queue.setAside cursor.segmentId suffix file reason).dir.segments.above
        cursor.segmentId = queue.dir.segments.above cursor.segmentId := by
      rw [setAside_segments found, OrderedMap.above_erase]
    rw [← behind] at moved
    have less := ahead_of_move moved.symm
    rw [behind] at less
    exact Or.inl less
  | replace file suffix reason found parsed free active room =>
    cases moved
    exact Or.inr ⟨rfl, rfl, OrderedMap.find?_insert_self _ _ _⟩

theorem readStepAt_fresh {queue : DiskQueue} {cursor : Cursor} (fresh : queue.AtFreshActive cursor) :
    readStepAt cursor ⟨queue, []⟩ = .ok .empty ⟨queue, []⟩ := by
  obtain ⟨active, -, found⟩ := fresh
  have parsed : parseRecord ((SegmentFile.empty).bytes.drop cursor.offset) = .endOfFile := by
    simp [SegmentFile.empty, parseRecord, recordHeaderLen]
  simp only [readStepAt, bind_apply, getQueue_apply, found, probe_calm, parsed, active,
    lt_self_iff_false, if_false, pure_apply]

theorem StepsTo.of_readStepAt {queue later : DiskQueue} {cursor : Cursor} {step : ReadStep}
    (done : readStepAt cursor ⟨queue, []⟩ = .ok step ⟨later, []⟩) : StepsTo queue cursor step later := by
  rcases readStepAt_calm queue cursor with ⟨other, last, ran, steps⟩ | ⟨message, last, failed, -⟩
  · rw [done] at ran
    cases ran
    exact steps
  · rw [done] at failed
    cases failed

/-! ### Reading a batch -/

theorem readBatch_zero (session : Session) :
    readBatch 0 session = .ok ⟨[], session.queue.cursor, false⟩ session := rfl

theorem readBatch_fits {maxItems : Nat} (some : maxItems ≠ 0) (fits : maxItems ≤ maxBatchItems) (session : Session) :
    readBatch maxItems session = readLoop maxItems (session.queue.stepBound maxItems) session.queue.cursor
      session.queue.cursor false [] session := by
  unfold readBatch reserveBatch
  rw [bind_apply, getQueue_apply]
  simp only [if_neg some, if_pos fits, bind_apply, pure_apply]

/-- Where no vector can hold the batch, the read panics before its first call. -/
theorem readBatch_panics {maxItems : Nat} (large : maxBatchItems < maxItems) (session : Session) :
    readBatch maxItems session = .error .panicked session := by
  have some : maxItems ≠ 0 := by omega
  unfold readBatch reserveBatch
  rw [bind_apply, getQueue_apply]
  simp only [if_neg some, if_neg (Nat.not_le.mpr large), bind_apply, throw_apply]

theorem drainBatch_panics {σ : Type} {maxItems : Nat} (large : maxBatchItems < maxItems)
    (sink : Sink σ (List Bytes)) (captured : σ) (session : Session) :
    drainBatch maxItems sink captured session = .error .panicked session := by
  rw [drainBatch, bind_apply, readBatch_panics large]

theorem fits_of_readBatch {maxItems : Nat} {session later : Session} {batch : PendingBatch}
    (read : readBatch maxItems session = .ok batch later) : maxItems ≤ maxBatchItems := by
  by_contra large
  rw [readBatch_panics (Nat.not_le.mp large)] at read
  cases read

section ReadLoop

variable (maxItems : Nat) (P : DiskQueue → Cursor → Bool → List Bytes → Prop)

/-- The three ways one turn of the loop can go keep `P`. -/
structure LoopInvariant : Prop where
  record : ∀ {queue cursor commit batch payload next later}, P queue cursor commit batch →
    batch.length < maxItems → StepsTo queue cursor (.record payload next) later →
    P later next commit (batch ++ [payload])
  move : ∀ {queue cursor commit batch next later}, P queue cursor commit batch →
    batch.length < maxItems → StepsTo queue cursor (.move next) later → P later next true batch
  empty : ∀ {queue cursor commit batch later}, P queue cursor commit batch →
    batch.length < maxItems → StepsTo queue cursor .empty later → P later cursor commit batch

/-- How a loop that keeps `P` ends: with a full batch or at the end of the queue, or at a
refused record in a segment that can be neither renamed nor replaced. -/
def LoopEnds (result : EStateM.Result Halt Session PendingBatch) : Prop :=
  (∃ batch later, result = .ok batch ⟨later, []⟩ ∧
    P later batch.nextCursor batch.shouldCommit batch.payloads ∧
    batch.payloads.length ≤ maxItems ∧
    (batch.payloads.length = maxItems ∨ ∃ before, P before batch.nextCursor batch.shouldCommit
      batch.payloads ∧ StepsTo before batch.nextCursor .empty later)) ∨
  (∃ message later, result = .error (.raised (.corruptSegment message)) later ∧
    ∃ queue cursor commit batch, P queue cursor commit batch ∧ batch.length < maxItems ∧
      StuckAt queue cursor later)

theorem readLoop_rule {maxItems P} (rule : LoopInvariant maxItems P) (fuel : Nat)
    {queue : DiskQueue} {cursor : Cursor} {commit : Bool} {batch : List Bytes}
    (start : P queue cursor commit batch) (size : batch.length ≤ maxItems)
    (enough : maxItems - batch.length + queue.segmentsAhead cursor + 2 ≤ fuel) :
    LoopEnds maxItems P (readLoop maxItems fuel cursor cursor commit batch ⟨queue, []⟩) := by
  induction fuel generalizing queue cursor commit batch with
  | zero => omega
  | succ fuel ih =>
    by_cases wanted : batch.length < maxItems
    · rw [readLoop, if_pos wanted, bind_apply]
      rcases readStepAt_calm queue cursor with ⟨step, later, ran, steps⟩ | ⟨message, later, failed, stuck⟩
      · rw [ran]
        cases step with
        | record payload next =>
          have kept := rule.record start wanted steps
          obtain ⟨rfl, rfl, -⟩ := steps.of_record
          apply ih kept
          · rw [List.length_append, List.length_singleton]
            omega
          · have same : later.segmentsAhead ⟨cursor.segmentId,
                cursor.offset + recordHeaderLen + payload.length⟩ = later.segmentsAhead cursor := rfl
            rw [List.length_append, List.length_singleton, same]
            omega
        | move next =>
          have kept := rule.move start wanted steps
          rcases steps.ahead_lt with less | fresh
          · exact ih kept size (by omega)
          · -- behind a replaced segment the loop meets the empty one and stops
            cases fuel with
            | zero => omega
            | succ fuel =>
              have stop := readStepAt_fresh fresh
              change LoopEnds maxItems P (readLoop maxItems (fuel + 1) next next true batch ⟨later, []⟩)
              rw [readLoop, if_pos wanted, bind_apply, stop]
              exact Or.inl ⟨⟨batch, next, true⟩, later, rfl, kept, size,
                Or.inr ⟨later, kept, StepsTo.of_readStepAt stop⟩⟩
        | empty =>
          exact Or.inl ⟨⟨batch, cursor, commit⟩, later, rfl, rule.empty start wanted steps, size,
            Or.inr ⟨queue, start, steps⟩⟩
      · rw [failed]
        exact Or.inr ⟨message, later, rfl, queue, cursor, commit, batch, start, wanted, stuck⟩
    · rw [readLoop, if_neg wanted]
      have full : batch.length = maxItems := by omega
      exact Or.inl ⟨⟨batch, cursor, commit⟩, queue, rfl, start, size, Or.inl full⟩

theorem segmentsAhead_le_entries (queue : DiskQueue) (cursor : Cursor) :
    queue.segmentsAhead cursor ≤ queue.dir.segments.entries.length :=
  List.length_filter_le _ _

theorem readBatch_rule {maxItems P} (rule : LoopInvariant maxItems P) {queue : DiskQueue}
    (start : P queue queue.cursor false []) (fits : maxItems ≤ maxBatchItems) :
    LoopEnds maxItems P (readBatch maxItems ⟨queue, []⟩) := by
  by_cases none : maxItems = 0
  · subst none
    rw [readBatch_zero]
    exact Or.inl ⟨⟨[], queue.cursor, false⟩, queue, rfl, start, Nat.zero_le _, Or.inl rfl⟩
  · rw [readBatch_fits none fits]
    apply readLoop_rule rule _ start (Nat.zero_le _)
    have bound := segmentsAhead_le_entries queue queue.cursor
    simp only [DiskQueue.stepBound, List.length_nil]
    omega

end ReadLoop

/-! ### Draining -/

theorem find?_committed (queue : DiskQueue) {cursor : Cursor} {id : Nat} (bound : cursor.segmentId ≤ id) :
    (queue.committed cursor).dir.segments.find? id = queue.dir.segments.find? id := by
  apply Option.ext
  intro file
  rw [OrderedMap.find?_eq_some_iff, OrderedMap.find?_eq_some_iff]
  simp [DiskQueue.committed, OrderedMap.since, bound]

theorem activeFile_committed (queue : DiskQueue) {cursor : Cursor}
    (bound : cursor.segmentId ≤ queue.activeSegmentId) :
    (queue.committed cursor).activeFile = queue.activeFile := by
  unfold DiskQueue.activeFile
  exact congrArg (fun file => file.getD SegmentFile.empty) (find?_committed queue bound)

theorem above_committed (queue : DiskQueue) {cursor : Cursor} {id : Nat} (bound : cursor.segmentId ≤ id) :
    (queue.committed cursor).dir.segments.above id = queue.dir.segments.above id := by
  simp only [DiskQueue.committed, OrderedMap.above, OrderedMap.since, List.filter_filter]
  apply List.filter_congr
  intro entry _
  simpa using fun above : id < entry.1 => bound.trans above.le

theorem segmentsAhead_committed (queue : DiskQueue) (cursor : Cursor) :
    (queue.committed cursor).segmentsAhead cursor = queue.segmentsAhead cursor := by
  rw [DiskQueue.segmentsAhead, above_committed queue (Nat.le_refl cursor.segmentId)]
  rfl

section DrainLoop

variable {σ : Type} (sink : Sink σ Bytes) (P : DiskQueue → σ → Prop)

/-- The ways one turn of `drain` can go keep `P`: a record is taken or refused by the
sink, the cursor moves to another segment, or the end of the queue is met. -/
structure DrainInvariant : Prop where
  taken : ∀ {queue captured payload next later after}, P queue captured →
    StepsTo queue queue.cursor (.record payload next) later →
    sink captured payload = (.ok (), after) → P (later.committed next) after
  refused : ∀ {queue captured payload next later after error}, P queue captured →
    StepsTo queue queue.cursor (.record payload next) later →
    sink captured payload = (.error error, after) → P later after
  move : ∀ {queue captured next later}, P queue captured →
    StepsTo queue queue.cursor (.move next) later → P (later.committed next) captured
  empty : ∀ {queue captured later}, P queue captured →
    StepsTo queue queue.cursor .empty later → P later captured

def DrainEnds (result : EStateM.Result Halt Session (Except DiskQueueError Nat × σ)) : Prop :=
  (∃ outcome captured later, result = .ok (outcome, captured) ⟨later, []⟩ ∧ P later captured) ∨
  (∃ message later, result = .error (.raised (.corruptSegment message)) later ∧
    ∃ queue captured, P queue captured ∧ StuckAt queue queue.cursor later)

theorem drainLoop_fresh (sink : Sink σ Bytes) (maxItems fuel drained : Nat) (captured : σ)
    {queue : DiskQueue} (fresh : queue.AtFreshActive queue.cursor) :
    ∃ outcome, drainLoop sink maxItems (fuel + 1) drained captured ⟨queue, []⟩ =
      .ok (outcome, captured) ⟨queue, []⟩ := by
  rw [drainLoop]
  split_ifs
  · simp only [bind_apply, getQueue_apply, readStepAt_fresh fresh]
    exact ⟨_, rfl⟩
  · exact ⟨_, rfl⟩

theorem drainLoop_rule {sink : Sink σ Bytes} {P : DiskQueue → σ → Prop}
    (rule : DrainInvariant sink P) (maxItems fuel : Nat) {queue : DiskQueue} {captured : σ}
    {drained : Nat} (start : P queue captured)
    (enough : maxItems - drained + queue.segmentsAhead queue.cursor + 2 ≤ fuel) :
    DrainEnds P (drainLoop sink maxItems fuel drained captured ⟨queue, []⟩) := by
  induction fuel generalizing queue captured drained with
  | zero => omega
  | succ fuel ih =>
    rw [drainLoop]
    by_cases wanted : drained < maxItems
    · rw [if_pos wanted, bind_apply, getQueue_apply]
      simp only [bind_apply]
      rcases readStepAt_calm queue queue.cursor with
        ⟨step, later, ran, steps⟩ | ⟨message, later, failed, stuck⟩
      · rw [ran]
        cases step with
        | record payload next =>
          obtain ⟨rfl, rfl, -⟩ := steps.of_record
          cases offered : sink captured payload with
          | mk answer after =>
            cases answer with
            | error error =>
              simp only [offered]
              exact Or.inl ⟨_, _, _, rfl, rule.refused start steps offered⟩
            | ok done =>
              simp only [offered, bind_apply, commitCursor_calm]
              apply ih (rule.taken start steps offered)
              have same := segmentsAhead_committed later ⟨later.cursor.segmentId,
                later.cursor.offset + recordHeaderLen + payload.length⟩
              have kept : later.segmentsAhead ⟨later.cursor.segmentId,
                later.cursor.offset + recordHeaderLen + payload.length⟩ =
                  later.segmentsAhead later.cursor := rfl
              change _ - _ + DiskQueue.segmentsAhead (later.committed _) ⟨_, _⟩ + 2 ≤ fuel
              rw [same, kept]
              omega
        | move next =>
          simp only [bind_apply, commitCursor_calm]
          have kept := rule.move start steps
          have same := segmentsAhead_committed later next
          rcases steps.ahead_lt with less | fresh
          · apply ih kept
            change _ - _ + DiskQueue.segmentsAhead (later.committed next) next + 2 ≤ fuel
            omega
          · cases fuel with
            | zero => omega
            | succ fuel =>
              have found := find?_committed later (le_refl next.segmentId)
              have freshAfter : (later.committed next).AtFreshActive next :=
                ⟨fresh.1, fresh.2.1, found.trans fresh.2.2⟩
              obtain ⟨outcome, ended⟩ :=
                drainLoop_fresh sink maxItems fuel drained captured freshAfter
              exact Or.inl ⟨outcome, captured, _, ended, kept⟩
        | empty => exact Or.inl ⟨_, _, _, rfl, rule.empty start steps⟩
      · rw [failed]
        exact Or.inr ⟨message, later, rfl, queue, captured, start, stuck⟩
    · rw [if_neg wanted]
      exact Or.inl ⟨_, _, _, rfl, start⟩

theorem drain_rule {sink : Sink σ Bytes} {P : DiskQueue → σ → Prop} (rule : DrainInvariant sink P)
    (maxItems : Nat) {queue : DiskQueue} {captured : σ} (start : P queue captured) :
    DrainEnds P (drain maxItems sink captured ⟨queue, []⟩) := by
  unfold drain
  rw [bind_apply, getQueue_apply]
  apply drainLoop_rule rule _ _ start
  have bound := segmentsAhead_le_entries queue queue.cursor
  simp only [DiskQueue.stepBound]
  omega

end DrainLoop

end TelemetryFabric.Buffer
