import TelemetryFabric.Buffer.Append

/-!
Rules for the operations of the queue. An operation that returns has done what it does when
nothing fails; one that fails leaves whatever its single changes keep.
-/

namespace TelemetryFabric.Buffer
open Library

/-! ### What a program leaves -/

/-- However it ends, the program leaves a queue with the property. -/
def Leaves {α : Type} (property : DiskQueue → Prop) (program : QueueM α) (session : Session) : Prop :=
  match program session with
  | .ok _ later => property later.queue
  | .error _ later => property later.queue

def Retains {α : Type} (property : DiskQueue → Prop) (program : QueueM α) : Prop :=
  ∀ session, property session.queue → Leaves property program session

namespace Leaves

variable {α β : Type} {property : DiskQueue → Prop} {session : Session}

theorem bind {program : QueueM α} {next : α → QueueM β} (first : Leaves property program session)
    (rest : ∀ value, Retains property (next value)) : Leaves property (program >>= next) session := by
  unfold Leaves at first ⊢
  rw [bind_apply]
  cases ran : program session with
  | ok value later =>
    rw [ran] at first
    exact rest value later first
  | error halt later =>
    rw [ran] at first
    exact first

theorem getQueue {next : DiskQueue → QueueM β} (rest : Leaves property (next session.queue) session) :
    Leaves property (Buffer.getQueue >>= next) session := rest

theorem modifyQueue {change : DiskQueue → DiskQueue} {next : QueueM β}
    (rest : Leaves property next { session with queue := change session.queue }) :
    Leaves property (Buffer.modifyQueue change >>= fun _ => next) session := rest

theorem call {effect : Directory → Directory} {next : QueueM β} (holds : property session.queue)
    (rest : ∀ plan, Leaves property next ⟨{ session.queue with dir := effect session.queue.dir }, plan⟩) :
    Leaves property (Buffer.call effect >>= fun _ => next) session := by
  unfold Leaves at rest ⊢
  rw [bind_apply]
  obtain ⟨plan, done | ⟨halt, -, failed⟩⟩ := call_cases effect session.queue session.plan
  · rw [show Buffer.call effect session = _ from done]
    exact rest plan
  · rw [show Buffer.call effect session = _ from failed]
    exact holds

theorem probe {next : QueueM β} (holds : property session.queue)
    (rest : ∀ plan, Leaves property next ⟨session.queue, plan⟩) :
    Leaves property (Buffer.probe >>= fun _ => next) session := call holds rest

end Leaves

namespace Retains

variable {α β : Type} {property : DiskQueue → Prop}

theorem pure (value : α) : Retains property (Pure.pure value : QueueM α) := fun _ holds => holds

theorem bind {program : QueueM α} {next : α → QueueM β} (first : Retains property program)
    (rest : ∀ value, Retains property (next value)) : Retains property (program >>= next) :=
  fun session holds => (first session holds).bind rest

theorem getQueue {next : DiskQueue → QueueM β} (rest : ∀ queue, Retains property (next queue)) :
    Retains property (Buffer.getQueue >>= next) :=
  fun session holds => rest session.queue session holds

theorem modifyQueue {change : DiskQueue → DiskQueue} (keeps : ∀ queue, property queue → property (change queue)) :
    Retains property (Buffer.modifyQueue change) := fun session holds => keeps session.queue holds

theorem call {effect : Directory → Directory}
    (keeps : ∀ queue, property queue → property { queue with dir := effect queue.dir }) :
    Retains property (Buffer.call effect) := by
  intro session holds
  obtain ⟨plan, done | ⟨halt, -, failed⟩⟩ := call_cases effect session.queue session.plan
  · rw [Leaves, show Buffer.call effect session = _ from done]
    exact keeps session.queue holds
  · rw [Leaves, show Buffer.call effect session = _ from failed]
    exact holds

theorem probe : Retains property Buffer.probe := call fun _ holds => holds

theorem write {size : Nat} {effect : Nat → Directory → Option Directory}
    (keeps : ∀ count queue dir, property queue → effect count queue.dir = some dir →
      property { queue with dir := dir }) : Retains property (Buffer.write size effect) := by
  intro session holds
  unfold Leaves
  obtain ⟨rest, ⟨dir, written, done⟩ | ⟨halt, count, -, failed⟩⟩ :=
    write_cases size effect session.queue session.plan
  · rw [done]
    exact keeps size session.queue dir holds written
  · rw [failed]
    cases written : effect count session.queue.dir with
    | none => exact holds
    | some dir => exact keeps count session.queue dir holds written

end Retains

/-- However a program ends that keeps a property, it is kept where it fails. -/
theorem Retains.of_error {α : Type} {property : DiskQueue → Prop} {program : QueueM α} {session later : Session}
    {halt : Halt} (retains : Retains property program) (failed : program session = .error halt later)
    (holds : property session.queue) : property later.queue := by
  have left := retains session holds
  rw [Leaves, failed] at left
  exact left

theorem Retains.of_ok {α : Type} {property : DiskQueue → Prop} {program : QueueM α} {session later : Session}
    {value : α} (retains : Retains property program) (returned : program session = .ok value later)
    (holds : property session.queue) : property later.queue := by
  have left := retains session holds
  rw [Leaves, returned] at left
  exact left

/-! ### Calls that return -/

/-- A program that returns under some plan has met no fault: it returns the same under none. -/
def Steady {α : Type} (program : QueueM α) : Prop :=
  ∀ session value later, program session = .ok value later →
    program ⟨session.queue, []⟩ = .ok value ⟨later.queue, []⟩

namespace Steady

variable {α β : Type}

theorem pure (value : α) : Steady (Pure.pure value : QueueM α) := by
  intro session result later done
  cases done
  rfl

theorem raise (error : DiskQueueError) : Steady (Buffer.raise error : QueueM α) := by
  intro session result later done
  cases done

theorem bind {program : QueueM α} {next : α → QueueM β} (first : Steady program)
    (rest : ∀ value, Steady (next value)) : Steady (program >>= next) := by
  intro session result later done
  rw [bind_apply] at done ⊢
  cases ran : program session with
  | ok value middle =>
    rw [ran] at done
    rw [first _ _ _ ran]
    exact rest value _ _ _ done
  | error halt middle =>
    rw [ran] at done
    cases done

theorem getQueue {next : DiskQueue → QueueM β} (rest : ∀ queue, Steady (next queue)) :
    Steady (Buffer.getQueue >>= next) := by
  intro session result later done
  exact rest session.queue _ _ _ done

theorem modifyQueue (change : DiskQueue → DiskQueue) : Steady (Buffer.modifyQueue change) := by
  intro session result later done
  cases done
  rfl

theorem call (effect : Directory → Directory) : Steady (Buffer.call effect) := by
  intro session result later done
  obtain ⟨rest, ran | ⟨halt, -, failed⟩⟩ := call_cases effect session.queue session.plan
  · have same := done.symm.trans ran
    cases same
    rfl
  · have same := done.symm.trans failed
    cases same

theorem probe : Steady Buffer.probe := call id

theorem write (size : Nat) (effect : Nat → Directory → Option Directory) : Steady (Buffer.write size effect) := by
  intro session result later done
  obtain ⟨rest, ⟨dir, written, ran⟩ | ⟨halt, count, -, failed⟩⟩ :=
    write_cases size effect session.queue session.plan
  · have same := done.symm.trans ran
    cases same
    exact write_calm written
  · have same := done.symm.trans failed
    cases same

end Steady

theorem segmentIds_steady : Steady segmentIds := .bind .probe fun _ => .getQueue fun _ => .pure _

theorem nextCursorAfter_steady (current : Nat) : Steady (nextCursorAfter current) :=
  .bind (.bind segmentIds_steady fun _ => .pure _) fun _ => .pure _

theorem quarantineAndAdvance_steady (segmentId : Nat) (reason : String) :
    Steady (quarantineAndAdvance segmentId reason) := by
  apply Steady.bind
  · apply Steady.getQueue
    intro queue
    dsimp only
    cases queue.dir.segments.find? segmentId with
    | none => exact .pure ()
    | some source =>
      apply Steady.bind .probe
      intro _
      cases corruptSegmentSuffix queue.dir segmentId with
      | none => exact .raise _
      | some suffix => exact .bind (.call _) fun _ => .bind (.modifyQueue _) fun _ => .write _ _
  · intro _
    apply Steady.getQueue
    intro queue
    split_ifs
    · exact .bind (.modifyQueue _) fun _ => .bind (.call _) fun _ => .pure _
    · exact .raise _
    · exact .bind (nextCursorAfter_steady segmentId) fun _ => .pure _

theorem readStepAt_steady (cursor : Cursor) : Steady (readStepAt cursor) := by
  apply Steady.getQueue
  intro queue
  cases queue.dir.segments.find? cursor.segmentId with
  | none => exact .bind (nextCursorAfter_steady _) fun _ => .pure _
  | some file =>
    apply Steady.bind .probe fun _ => .bind .probe fun _ => .bind .probe fun _ => ?_
    cases parseRecord (file.bytes.drop cursor.offset) with
    | endOfFile =>
      dsimp only
      split_ifs
      · exact .bind (nextCursorAfter_steady _) fun _ => .pure _
      · exact .pure _
    | truncated => exact .bind .probe fun _ => quarantineAndAdvance_steady _ _
    | mismatch => exact .bind .probe fun _ => quarantineAndAdvance_steady _ _
    | record payload => exact .bind .probe fun _ => .pure _

theorem commitCursor_steady (cursor : Cursor) : Steady (commitCursor cursor) := by
  have removed : ∀ ids, Steady (removeSegments ids) := by
    intro ids
    induction ids with
    | nil => exact .pure ()
    | cons id rest ih =>
      apply Steady.getQueue
      intro queue
      dsimp only
      cases queue.dir.segments.find? id with
      | none => exact ih
      | some file => exact .bind .probe fun _ => .bind (.call _) fun _ => .bind (.modifyQueue _) fun _ => ih
  apply Steady.bind (.modifyQueue _)
  intro _
  apply Steady.bind (.bind segmentIds_steady fun _ => removed _)
  intro _
  exact .bind (.write _ _) fun _ => .call _

theorem StepsTo.of_returned {session later : Session} {cursor : Cursor} {step : ReadStep}
    (read : readStepAt cursor session = .ok step later) : StepsTo session.queue cursor step later.queue :=
  StepsTo.of_readStepAt (readStepAt_steady cursor _ _ _ read)

theorem queue_committed {session later : Session} {cursor : Cursor}
    (moved : commitCursor cursor session = .ok () later) : later.queue = session.queue.committed cursor := by
  have calm := (commitCursor_steady cursor _ _ _ moved).symm.trans (commitCursor_calm session.queue cursor)
  cases later
  cases calm
  rfl

/-! ### Operations that fail -/

/-- Where the program fails, it leaves a queue with the property. -/
def Spares {α : Type} (property : DiskQueue → Prop) (program : QueueM α) : Prop :=
  Ensures (fun session => property session.queue) program (fun _ _ => True) (fun session => property session.queue)

theorem Retains.spares {α β : Type} {property : DiskQueue → Prop} {program : QueueM α} {next : α → QueueM β}
    (first : Retains property program) (rest : ∀ value, Spares property (next value)) :
    Spares property (program >>= next) := by
  intro session holds
  have kept := first session holds
  rw [bind_apply]
  unfold Leaves at kept
  cases ran : program session with
  | ok value later =>
    rw [ran] at kept
    exact rest value later kept
  | error halt later =>
    rw [ran] at kept
    exact kept

theorem spares_pure {α : Type} {property : DiskQueue → Prop} (value : α) :
    Spares property (pure value : QueueM α) := fun _ _ => trivial

/-- A single call that fails has changed nothing. -/
theorem spares_call {property : DiskQueue → Prop} (effect : Directory → Directory) :
    Spares property (call effect) := by
  intro session holds
  obtain ⟨rest, done | ⟨halt, -, failed⟩⟩ := call_cases effect session.queue session.plan
  · rw [show call effect session = _ from done]
    trivial
  · rw [show call effect session = _ from failed]
    exact holds

/-- With what a program that returns leaves, all it leaves. -/
theorem Spares.retains {α : Type} {property : DiskQueue → Prop} {program : QueueM α}
    (spares : Spares property program)
    (returns : ∀ session value later, property session.queue → program session = .ok value later →
      property later.queue) : Retains property program := by
  intro session holds
  have failed := spares session holds
  unfold Leaves
  cases ran : program session with
  | ok value later => exact returns session value later holds ran
  | error halt later =>
    rw [ran] at failed
    exact failed

/-! ### Reading -/

section Reading

variable {property : DiskQueue → Prop}

/-- What a `read_step_at` changes before the last call that can fail. -/
structure SparedByReads (property : DiskQueue → Prop) : Prop where
  aside : ∀ {queue id file} (suffix : Nat), property queue → queue.dir.segments.find? id = some file →
    property { queue with
      dir := queue.dir.renameCorrupt id suffix
      queuedBytes := queue.queuedBytes - file.len }
  reason : ∀ {queue} (id suffix : Nat) (text : String), property queue →
    property { queue with dir := queue.dir.writeReason id suffix text }
  numbered : ∀ {queue id}, property queue → queue.activeSegmentId < id →
    property { queue with activeSegmentId := id, activeSegmentBytes := 0 }

structure KeptByReads (property : DiskQueue → Prop) : Prop extends SparedByReads property where
  started : ∀ {queue id}, property queue → queue.activeSegmentId < id → property (queue.startSegment id)

theorem SparedByReads.setAside (rules : SparedByReads property) {queue : DiskQueue} {id suffix : Nat}
    {file : SegmentFile} {reason : String} (holds : property queue)
    (found : queue.dir.segments.find? id = some file) : property (queue.setAside id suffix file reason) :=
  rules.reason id suffix (reason ++ "\n") (rules.aside suffix holds found)

theorem nextCursorAfter_retains (current : Nat) : Retains property (nextCursorAfter current) :=
  .bind (.bind (.bind .probe fun _ => .getQueue fun _ => .pure _) fun _ => .pure _) fun _ => .pure _

theorem quarantineSegment_retains (rules : SparedByReads property) (segmentId : Nat) (reason : String) :
    Retains property (quarantineSegment segmentId reason) := by
  intro session holds
  apply Leaves.getQueue
  dsimp only
  cases found : session.queue.dir.segments.find? segmentId with
  | none => exact holds
  | some source =>
    apply Leaves.probe holds
    intro plan
    cases corruptSegmentSuffix session.queue.dir segmentId with
    | none => exact holds
    | some suffix =>
      dsimp only
      apply Leaves.call
      · exact holds
      intro plan
      apply Leaves.modifyQueue
      apply Retains.write
      · intro count queue dir kept written
        cases written
        exact rules.reason _ _ _ kept
      · exact rules.aside suffix holds found

theorem quarantineAndAdvance_spares (rules : SparedByReads property) (segmentId : Nat) (reason : String) :
    Spares property (quarantineAndAdvance segmentId reason) := by
  apply (quarantineSegment_retains rules segmentId reason).spares
  intro _ session holds
  simp only [bind_apply, getQueue_apply]
  split_ifs with last room
  · have numbered := rules.numbered holds (Nat.lt_succ_of_le last)
    have created := spares_call (·.createSegment (segmentId + 1))
      { session with queue := { session.queue with activeSegmentId := segmentId + 1, activeSegmentBytes := 0 } }
      numbered
    simp only [bind_apply, modifyQueue_apply]
    cases ran : call (·.createSegment (segmentId + 1))
        { session with queue := { session.queue with activeSegmentId := segmentId + 1, activeSegmentBytes := 0 } } with
    | ok value later => trivial
    | error halt later =>
      rw [ran] at created
      exact created
  · exact holds
  · exact (nextCursorAfter_retains segmentId).spares (fun _ => spares_pure _) session holds

theorem readStepAt_spares (rules : SparedByReads property) (cursor : Cursor) :
    Spares property (readStepAt cursor) := by
  intro session holds
  unfold readStepAt
  rw [bind_apply, getQueue_apply]
  dsimp only
  cases session.queue.dir.segments.find? cursor.segmentId with
  | none => exact (nextCursorAfter_retains _).spares (fun _ => spares_pure _) session holds
  | some file =>
    apply Retains.spares .probe fun _ => Retains.spares .probe fun _ => Retains.spares .probe fun _ => ?_
    · exact holds
    cases parseRecord (file.bytes.drop cursor.offset) with
    | endOfFile =>
      dsimp only
      split_ifs
      · exact (nextCursorAfter_retains _).spares fun _ => spares_pure _
      · exact spares_pure _
    | truncated => exact Retains.spares .probe fun _ => quarantineAndAdvance_spares rules _ _
    | mismatch => exact Retains.spares .probe fun _ => quarantineAndAdvance_spares rules _ _
    | record payload => exact Retains.spares .probe fun _ => spares_pure _

theorem StepsTo.keeps (rules : KeptByReads property) {queue later : DiskQueue} {cursor : Cursor} {step : ReadStep}
    (steps : StepsTo queue cursor step later) (holds : property queue) : property later := by
  cases steps with
  | missing => exact holds
  | record => exact holds
  | finished => exact holds
  | leave => exact holds
  | quarantine file suffix reason found => exact rules.setAside holds found
  | replace file suffix reason found parsed free active room =>
    exact rules.started (rules.setAside holds found) (Nat.lt_succ_of_le (not_lt.mp active))

theorem readStepAt_retains (rules : KeptByReads property) (cursor : Cursor) :
    Retains property (readStepAt cursor) := by
  apply (readStepAt_spares rules.toSparedByReads cursor).retains
  intro session step later holds read
  exact (StepsTo.of_returned read).keeps rules holds

theorem readBatch_retains (rules : KeptByReads property) (maxItems : Nat) :
    Retains property (readBatch maxItems) := by
  have loop : ∀ fuel cursor final moved batch,
      Retains property (readLoop maxItems fuel cursor final moved batch) := by
    intro fuel
    induction fuel with
    | zero => exact fun _ _ _ _ _ holds => holds
    | succ fuel ih =>
      intro cursor final moved batch
      rw [readLoop]
      split_ifs
      · apply Retains.bind (readStepAt_retains rules cursor)
        intro step
        cases step with
        | record payload next => exact ih _ _ _ _
        | move next => exact ih _ _ _ _
        | empty => exact .pure _
      · exact .pure _
  have reserved : Retains property (reserveBatch maxItems) := by
    unfold reserveBatch
    split_ifs
    · exact .pure ()
    · exact fun _ holds => holds
  apply Retains.getQueue
  intro queue
  split_ifs
  · exact .pure _
  · exact .bind reserved fun _ => loop _ _ _ _ _

end Reading

/-- The cursor in memory and the text of the cursor file. -/
def DiskQueue.Marked (cursor : Cursor) (text : Option (List Char)) (queue : DiskQueue) : Prop :=
  queue.cursor = cursor ∧ queue.dir.cursor = text

/-- Reading moves neither cursor. -/
theorem reads_marked (cursor : Cursor) (text : Option (List Char)) : KeptByReads (DiskQueue.Marked cursor text) where
  aside := by
    intro queue id file suffix marked found
    apply And.intro marked.1
    change (queue.dir.renameCorrupt id suffix).cursor = text
    rw [Directory.renameCorrupt, found]
    exact marked.2
  reason := fun _ _ _ marked => marked
  numbered := fun marked _ => marked
  started := fun marked _ => marked

/-! ### Committing -/

section Committing

variable {property : DiskQueue → Prop}

/-- What a `commit_cursor` changes behind the cursor itself and before its last call. -/
structure SparedByCommits (property : DiskQueue → Prop) : Prop where
  removed : ∀ {queue id file}, property queue → queue.dir.segments.find? id = some file →
    property { queue with dir := queue.dir.removeSegment id, queuedBytes := queue.queuedBytes - file.len }
  tmp : ∀ {queue} (text : List Char), property queue →
    property { queue with dir := queue.dir.writeCursorTmp text }

structure KeptByCommits (property : DiskQueue → Prop) : Prop extends SparedByCommits property where
  moved : ∀ {queue} (cursor : Cursor), property queue → property { queue with cursor := cursor }
  renamed : ∀ {queue}, property queue → property { queue with dir := queue.dir.renameCursorTmp }

theorem removeSegmentsBefore_retains (rules : SparedByCommits property) (segmentId : Nat) :
    Retains property (removeSegmentsBefore segmentId) := by
  have removed : ∀ ids, Retains property (removeSegments ids) := by
    intro ids
    induction ids with
    | nil => exact .pure ()
    | cons id rest ih =>
      intro session holds
      apply Leaves.getQueue
      dsimp only
      cases found : session.queue.dir.segments.find? id with
      | none => exact ih session holds
      | some file =>
        apply Leaves.probe holds
        intro plan
        apply Leaves.call
        · exact holds
        intro plan
        apply Leaves.modifyQueue
        apply ih
        exact rules.removed holds found
  exact .bind (.bind .probe fun _ => .getQueue fun _ => .pure _) fun _ => removed _

theorem writeTmp_retains (rules : SparedByCommits property) (cursor : Cursor) :
    Retains property (write (cursorText cursor).length fun count dir =>
      some (dir.writeCursorTmp ((cursorText cursor).take count))) := by
  apply Retains.write
  intro count queue dir holds written
  cases written
  exact rules.tmp _ holds

/-- A commit that fails has moved the cursor and has not renamed its file. -/
theorem commitCursor_failed (rules : SparedByCommits property) {cursor : Cursor} {session later : Session}
    {halt : Halt} (moved : property { session.queue with cursor := cursor })
    (failed : commitCursor cursor session = .error halt later) : property later.queue := by
  have spares : Spares property (do removeSegmentsBefore cursor.segmentId; persistCursor cursor) :=
    (removeSegmentsBefore_retains rules cursor.segmentId).spares fun _ =>
      (writeTmp_retains rules cursor).spares fun _ => spares_call _
  have left := spares { session with queue := { session.queue with cursor := cursor } } moved
  rw [commitCursor, bind_apply, modifyQueue_apply] at failed
  simp only [failed] at left
  exact left

theorem commitCursor_retains (rules : KeptByCommits property) (cursor : Cursor) :
    Retains property (commitCursor cursor) := by
  apply Retains.bind
  · exact .modifyQueue fun _ holds => rules.moved cursor holds
  · intro _
    apply Retains.bind (removeSegmentsBefore_retains rules.toSparedByCommits cursor.segmentId)
    intro _
    apply Retains.bind (writeTmp_retains rules.toSparedByCommits cursor)
    intro _
    exact .call fun _ holds => rules.renamed holds

theorem commitBatch_retains (rules : KeptByCommits property) (batch : PendingBatch) :
    Retains property (commitBatch batch) := by
  unfold commitBatch
  split_ifs
  · exact .bind (commitCursor_retains rules batch.nextCursor) fun _ => .pure _
  · exact .pure _

theorem drain_retains {σ : Type} (reads : KeptByReads property) (commits : KeptByCommits property)
    (maxItems : Nat) (sink : Sink σ Bytes) (captured : σ) : Retains property (drain maxItems sink captured) := by
  have loop : ∀ fuel drained captured, Retains property (drainLoop sink maxItems fuel drained captured) := by
    intro fuel
    induction fuel with
    | zero => exact fun _ _ _ holds => holds
    | succ fuel ih =>
      intro drained captured
      rw [drainLoop]
      split_ifs
      · apply Retains.getQueue
        intro queue
        apply Retains.bind (readStepAt_retains reads queue.cursor)
        intro step
        cases step with
        | record payload next =>
          dsimp only
          cases sink captured payload with
          | mk answer after =>
            cases answer with
            | error error => exact .pure _
            | ok done => exact .bind (commitCursor_retains commits next) fun _ => ih _ _
        | move next => exact .bind (commitCursor_retains commits next) fun _ => ih _ _
        | empty => exact .pure _
      · exact .pure _
  exact .getQueue fun _ => loop _ _ _

end Committing

end TelemetryFabric.Buffer
