import TelemetryFabric.Buffer.Intact
import TelemetryFabric.Buffer.Retry
import TelemetryFabric.Buffer.Torn
import TelemetryFabric.Library.Machine

/-!
Runs of one queue directory: the operations of the program, the enqueues that are cut
short, the restarts, and the damage done to segment files from outside. The state keeps,
beside the queue, the batch that has been read and not committed, and the history the
properties speak about.
-/

namespace TelemetryFabric.Buffer
open Library

instance decidableEqResult {ε σ α : Type} [DecidableEq ε] [DecidableEq σ] [DecidableEq α] :
    DecidableEq (EStateM.Result ε σ α)
  | .ok value state, .ok other later => decidable_of_iff (value = other ∧ state = later) (by simp)
  | .error failure state, .error other later => decidable_of_iff (failure = other ∧ state = later) (by simp)
  | .ok _ _, .error _ _ => isFalse nofun
  | .error _ _, .ok _ _ => isFalse nofun

/-- A batch that has been read. `kept` says whether the read left all of it on disk. -/
structure Outstanding where
  batch : PendingBatch
  kept : Bool
  deriving DecidableEq

/-- `stored` lists the payloads whose `enqueue` returned `Ok` with the segment each went
to, `delivered` the payloads of committed batches and drained records, `altered` the
segments damaged from outside. -/
structure RunState where
  queue : DiskQueue
  pending : Option Outstanding
  stored : List (Nat × Bytes)
  delivered : List Bytes
  altered : List Nat
  deriving DecidableEq

inductive Operation where
  | enqueue (payload : Bytes)
  /-- An `enqueue` of which only `cut` bytes reach the file. The process goes on with the
  error, or dies and the directory is opened again. -/
  | tear (payload : Bytes) (cut : Nat) (restart : Option DiskQueueOptions)
  | readBatch (maxItems : Nat)
  | commitBatch
  | drain (maxItems : Nat) (accepts : List Bytes → Bytes → Bool)
  | drainBatch (maxItems : Nat) (accepts : List Bytes → Bool)
  | reopen (options : DiskQueueOptions)
  | damage (id : Nat) (file : SegmentFile)

/-- A sink that keeps what it accepts. -/
def keepingSink (accepts : List Bytes → Bytes → Bool) : Sink (List Bytes) Bytes :=
  fun taken payload =>
    if accepts taken payload then (.ok (), taken ++ [payload]) else (.error (.sink "refused"), taken)

def keepingBatchSink (accepts : List Bytes → Bool) : Sink (List Bytes) (List Bytes) :=
  fun taken payloads =>
    if accepts payloads then (.ok (), taken ++ payloads) else (.error (.sink "refused"), taken)

/-! ### Draining -/

/-- The loop of `drain` after some turns: what the sink has taken and what is still ahead
are together the records ahead at the start. -/
structure DrainSoFar (queue current : DiskQueue) (taken : List Bytes) : Prop where
  sound : current.Sound
  records : ∃ tagged, tagged.map Prod.snd = taken ∧ tagged ++ current.ahead = queue.ahead
  intact : ∀ altered, queue.Intact altered queue.cursor → current.Intact altered current.cursor
  level : queue.Level queue.cursor → current.Level current.cursor

theorem drainSoFar_invariant (queue : DiskQueue) (accepts : List Bytes → Bytes → Bool) :
    DrainInvariant (keepingSink accepts) (DrainSoFar queue) where
  taken := by
    intro current taken payload target later after sofar steps offered
    obtain ⟨shaped, -, within⟩ := sofar.sound.toShaped.stepsTo sofar.sound.within steps
    obtain ⟨tagged, listed, records⟩ := sofar.records
    have onward : ∀ altered, current.Intact altered current.cursor → later.Intact altered target :=
      fun altered intact => intact.of_record steps
    have level : current.Level current.cursor → later.Level target :=
      fun before => before.stepsTo sofar.sound.toShaped steps rfl
    obtain ⟨rfl, rest⟩ : later = current ∧
        current.ahead = (target.segmentId, payload) :: current.aheadAt target := steps.reads
    have kept : after = taken ++ [payload] := by
      unfold keepingSink at offered
      split_ifs at offered
      · exact (congrArg Prod.snd offered).symm
      · cases offered
    refine ⟨shaped.committed (within target rfl), ?_, ?_, ?_⟩
    · refine ⟨tagged ++ [(target.segmentId, payload)], by simp [listed, kept], ?_⟩
      rw [ahead_committed, ← records, rest]
      simp
    · intro altered intact
      exact (onward altered (sofar.intact altered intact)).committed target
    · exact fun before => (level (sofar.level before)).committed (within target rfl).2.1
  refused := by
    intro current taken payload target later after error sofar steps offered
    obtain ⟨rfl, -⟩ := steps.of_record
    have kept : after = taken := by
      unfold keepingSink at offered
      split_ifs at offered
      · cases offered
      · exact (congrArg Prod.snd offered).symm
    rw [kept]
    exact sofar
  move := by
    intro current taken target later sofar steps
    obtain ⟨shaped, -, within⟩ := sofar.sound.toShaped.stepsTo sofar.sound.within steps
    have rest : current.ahead = later.aheadAt target := steps.reads
    refine ⟨shaped.committed (within target rfl), ?_, ?_, ?_⟩
    · rw [ahead_committed, ← rest]
      exact sofar.records
    · intro altered intact
      exact ((sofar.intact altered intact).of_move steps).committed target
    · intro before
      exact ((sofar.level before).stepsTo sofar.sound.toShaped steps rfl).committed (within target rfl).2.1
  empty := by
    intro current taken later sofar steps
    obtain rfl := (sofar.sound.toShaped.at_end sofar.sound.within steps).1
    exact sofar

theorem drain_takes {queue : DiskQueue} (sound : queue.Sound) (maxItems : Nat)
    (accepts : List Bytes → Bytes → Bool) :
    (∃ outcome taken later, drain maxItems (keepingSink accepts) [] ⟨queue, []⟩ =
      .ok (outcome, taken) ⟨later, []⟩ ∧ DrainSoFar queue later taken) ∨
    (∃ message later, drain maxItems (keepingSink accepts) [] ⟨queue, []⟩ =
      .error (.raised (.corruptSegment message)) later ∧
        ∃ current taken, DrainSoFar queue current taken ∧ StuckAt current current.cursor later) :=
  drain_rule (drainSoFar_invariant queue accepts) maxItems
    ⟨sound, ⟨[], rfl, rfl⟩, fun _ intact => intact, fun level => level⟩

namespace RunState

def start (path : String) (options : DiskQueueOptions) : RunState :=
  ⟨.openDir (.fresh path) options, none, [], [], []⟩

/-- One operation. There is no next state when a file-system call fails that the
operation does not name, or when a read gives no batch; one that panics leaves the queue as it is. -/
def step (state : RunState) : Operation → Option RunState
  | .enqueue payload =>
      match Buffer.enqueue payload ⟨state.queue, []⟩ with
      | .ok _ session => some { state with
          queue := session.queue
          stored := state.stored ++ [(session.queue.activeSegmentId, payload)] }
      | .error (.raised .io) _ => none
      | .error (.raised _) session => some { state with queue := session.queue }
      | .error _ _ => none
  | .tear payload cut restart =>
      if cut < recordHeaderLen + payload.length then
        match restart with
        | none =>
            match Buffer.enqueue payload ⟨state.queue, tornPlan state.queue payload cut .error⟩ with
            | .error (.raised .io) session => some { state with queue := session.queue }
            | _ => none
        | some options =>
            match Buffer.enqueue payload ⟨state.queue, tornPlan state.queue payload cut .crash⟩ with
            | .error .crashed session => some { state with
                queue := .openDir session.queue.dir options
                pending := none }
            | _ => none
      else none
  | .readBatch maxItems =>
      match Buffer.readBatch maxItems ⟨state.queue, []⟩ with
      | .ok batch session => some { state with
          queue := session.queue
          pending := some ⟨batch, state.queue.keepsBatch maxItems⟩ }
      | .error _ _ => none
  | .commitBatch =>
      match state.pending with
      | none => none
      | some outstanding =>
          match Buffer.commitBatch outstanding.batch ⟨state.queue, []⟩ with
          | .ok _ session => some { state with
              queue := session.queue
              pending := none
              delivered := state.delivered ++ outstanding.batch.payloads }
          | .error _ _ => none
  | .drain maxItems accepts =>
      match Buffer.drain maxItems (keepingSink accepts) [] ⟨state.queue, []⟩ with
      | .ok (_, taken) session => some { state with
          queue := session.queue
          pending := none
          delivered := state.delivered ++ taken }
      | .error _ _ => none
  | .drainBatch maxItems accepts =>
      match Buffer.drainBatch maxItems (keepingBatchSink accepts) [] ⟨state.queue, []⟩ with
      | .ok (_, taken) session => some { state with
          queue := session.queue
          pending := none
          delivered := state.delivered ++ taken }
      | .error _ _ => none
  | .reopen options => some { state with
      queue := .openDir state.queue.dir options
      pending := none }
  | .damage id file =>
      if (state.queue.dir.segments.find? id).isSome then some { state with
        queue := { state.queue with
          dir := { state.queue.dir with segments := state.queue.dir.segments.insert id file } }
        altered := id :: state.altered }
      else none

/-- The payloads of the outstanding batch. -/
def outstanding (state : RunState) : List Bytes :=
  match state.pending with
  | none => []
  | some outstanding => outstanding.batch.payloads

/-- Where the next batch will start, once the outstanding one is committed. -/
def front (state : RunState) : Cursor :=
  match state.pending with
  | none => state.queue.cursor
  | some outstanding => outstanding.batch.nextCursor

/-! ### What each operation does -/

variable {state next : RunState}

/-- The front stays where it is while the cursor and the outstanding batch do. -/
theorem front_congr {after : RunState} (cursor : after.queue.cursor = state.queue.cursor)
    (pending : after.pending = state.pending) : after.front = state.front := by
  unfold front
  rw [pending, cursor]

theorem step_enqueue {payload : Bytes} (taken : state.step (.enqueue payload) = some next) :
    (∃ full : SegmentFile, payload.length ≤ u32Max ∧
      (state.queue.rotates payload → state.queue.activeSegmentId < u64Max) ∧
      full.bytes = (state.queue.rotated payload).activeFile.bytes ++ frame payload ∧
      next = { state with
        queue := (state.queue.rotated payload).appended payload full
        stored := state.stored ++ [((state.queue.rotated payload).activeSegmentId, payload)] }) ∨
    next = state := by
  simp only [step] at taken
  rcases enqueue_cases state.queue payload with
    ⟨full, small, room, bytes, done⟩ | ⟨error, other, refused⟩ | ⟨later, failed⟩
  · rw [done] at taken
    cases taken
    exact Or.inl ⟨full, small, room, bytes, rfl⟩
  · rw [refused] at taken
    cases error with
    | io => exact absurd rfl other
    | corruptSegment message =>
      cases taken
      exact Or.inr rfl
    | payloadTooLarge size =>
      cases taken
      exact Or.inr rfl
    | sink message =>
      cases taken
      exact Or.inr rfl
  · rw [failed] at taken
    cases taken

/-- The queue an interrupted `enqueue` leaves, with part of the record in its last file. -/
structure Tears (queue : DiskQueue) (payload : Bytes) (torn : DiskQueue) : Prop where
  small : payload.length ≤ u32Max
  room : queue.rotates payload → queue.activeSegmentId < u64Max
  left : ∃ (file : SegmentFile) (piece : Bytes), piece <+: frame payload ∧
    piece.length < (frame payload).length ∧
    file.bytes = (queue.rotated payload).activeFile.bytes ++ piece ∧
    torn = (queue.rotated payload).withFile (queue.rotated payload).activeSegmentId file

theorem step_tear {payload : Bytes} {cut : Nat} {restart : Option DiskQueueOptions}
    (taken : state.step (.tear payload cut restart) = some next) :
    ∃ torn, Tears state.queue payload torn ∧
      ((restart = none ∧ next = { state with queue := torn }) ∨
        ∃ options, restart = some options ∧
          next = { state with queue := .openDir torn.dir options, pending := none }) := by
  simp only [step] at taken
  split_ifs at taken with proper
  have shape : ∀ {fault : Nat → Fault} {halt : Halt} {session : Session},
      fault = .error ∨ fault = .crash → (halt = .raised .io ∨ halt = .crashed) →
      Buffer.enqueue payload ⟨state.queue, tornPlan state.queue payload cut fault⟩ = .error halt session →
      Tears state.queue payload session.queue := by
    intro fault halt session kind stopped done
    rcases enqueue_torn state.queue payload cut kind with
      ⟨error, later, other, refused⟩ | ⟨file, piece, why, plan, small, room, inside, size, bytes, torn⟩
    · rw [refused] at done
      cases done
      simp [other] at stopped
    · rw [torn] at done
      cases done
      exact ⟨small, room, file, piece, inside, by rw [length_frame]; omega, bytes, rfl⟩
  cases restart with
  | none =>
    simp only at taken
    split at taken
    next session done =>
      cases taken
      exact ⟨session.queue, shape (Or.inl rfl) (Or.inl rfl) done, Or.inl ⟨rfl, rfl⟩⟩
    next => cases taken
  | some options =>
    simp only at taken
    split at taken
    next session done =>
      cases taken
      exact ⟨session.queue, shape (Or.inr rfl) (Or.inr rfl) done, Or.inr ⟨options, rfl, rfl⟩⟩
    next => cases taken

theorem step_readBatch {maxItems : Nat} (shaped : state.queue.Shaped)
    (taken : state.step (.readBatch maxItems) = some next) :
    ∃ batch later, Buffer.readBatch maxItems ⟨state.queue, []⟩ = .ok batch ⟨later, []⟩ ∧
      Took state.queue maxItems batch later ∧
      next = { state with
        queue := later
        pending := some ⟨batch, state.queue.keepsBatch maxItems⟩ } := by
  simp only [step] at taken
  have fits : maxItems ≤ maxBatchItems := by
    by_contra large
    rw [readBatch_panics (Nat.not_le.mp large)] at taken
    cases taken
  rcases readBatch_takes shaped fits with ⟨batch, later, done, took⟩ | ⟨message, later, failed, -⟩
  · rw [done] at taken
    cases taken
    exact ⟨batch, later, done, took, rfl⟩
  · rw [failed] at taken
    cases taken

theorem step_commitBatch (taken : state.step .commitBatch = some next) :
    ∃ outstanding, state.pending = some outstanding ∧
      next = { state with
        queue := state.queue.afterCommit outstanding.batch
        pending := none
        delivered := state.delivered ++ outstanding.batch.payloads } := by
  simp only [step] at taken
  cases pending : state.pending with
  | none =>
    rw [pending] at taken
    cases taken
  | some outstanding =>
    rw [pending] at taken
    simp only [commitBatch_eq] at taken
    cases taken
    exact ⟨outstanding, rfl, rfl⟩

theorem step_drain {maxItems : Nat} {accepts : List Bytes → Bytes → Bool} (sound : state.queue.Sound)
    (taken : state.step (.drain maxItems accepts) = some next) :
    ∃ payloads later, DrainSoFar state.queue later payloads ∧
      next = { state with
        queue := later
        pending := none
        delivered := state.delivered ++ payloads } := by
  simp only [step] at taken
  rcases drain_takes sound maxItems accepts with
    ⟨outcome, payloads, later, done, sofar⟩ | ⟨message, later, failed, -⟩
  · rw [done] at taken
    cases taken
    exact ⟨payloads, later, sofar, rfl⟩
  · rw [failed] at taken
    cases taken

/-- A `drain_batch` is a `read_batch` that is committed if the sink agrees. -/
theorem step_drainBatch {maxItems : Nat} {accepts : List Bytes → Bool} (sound : state.queue.Sound)
    (taken : state.step (.drainBatch maxItems accepts) = some next) :
    ∃ batch later, Buffer.readBatch maxItems ⟨state.queue, []⟩ = .ok batch ⟨later, []⟩ ∧
      Took state.queue maxItems batch later ∧
      (next = { state with
          queue := later.afterCommit batch
          pending := none
          delivered := state.delivered ++ batch.payloads } ∨
        accepts batch.payloads = false ∧ next = { state with queue := later, pending := none }) := by
  simp only [step] at taken
  have fits : maxItems ≤ maxBatchItems := by
    by_contra large
    rw [drainBatch_panics (Nat.not_le.mp large)] at taken
    cases taken
  rcases readBatch_takes sound.toShaped fits with ⟨batch, later, done, took⟩ | ⟨message, later, failed, -⟩
  · refine ⟨batch, later, done, took, ?_⟩
    simp only [Buffer.drainBatch, bind_apply, done] at taken
    by_cases none : batch.payloads.isEmpty = true
    · have empty := List.isEmpty_iff.mp none
      rw [if_pos none] at taken
      simp only [bind_apply, commitBatch_eq, pure_apply, List.append_nil, Option.some.injEq] at taken
      refine Or.inl ?_
      rw [← taken, empty, List.append_nil]
    · rw [if_neg none] at taken
      by_cases agreed : accepts batch.payloads = true
      · simp only [keepingBatchSink, agreed, if_true, bind_apply, commitBatch_eq, pure_apply,
          List.nil_append, Option.some.injEq] at taken
        exact Or.inl taken.symm
      · simp only [keepingBatchSink, agreed, if_false, pure_apply, List.append_nil, Bool.false_eq_true,
          Option.some.injEq] at taken
        exact Or.inr ⟨by simpa using agreed, taken.symm⟩
  · simp only [Buffer.drainBatch, bind_apply, failed] at taken
    cases taken

/-! ### Every reachable queue is sound -/

structure Sound (state : RunState) : Prop where
  queue : state.queue.Sound
  pending : ∀ outstanding, state.pending = some outstanding →
    state.queue.Within outstanding.batch.nextCursor ∧
      (outstanding.batch.payloads = [] → outstanding.batch.shouldCommit = false →
        outstanding.batch.nextCursor = state.queue.cursor)

theorem start_sound (path : String) (options : DiskQueueOptions) : (start path options).Sound := by
  refine ⟨⟨⟨⟨⟨[], .empty, rfl⟩, show 1 ≤ u64Max by decide⟩, ⟨le_rfl, le_rfl, Nat.zero_le _⟩, le_rfl, ?_,
    List.Pairwise.nil⟩, ?_, rfl, rfl⟩, ?_⟩
  · intro file member
    cases member
  · intro entry member
    rw [List.mem_singleton.mp member]
    exact le_rfl
  · intro outstanding pending
    cases pending

theorem Tears.sound {queue torn : DiskQueue} {payload : Bytes} (tears : Tears queue payload torn)
    (sound : queue.Sound) : torn.Sound := by
  obtain ⟨file, piece, -, -, -, rfl⟩ := tears.left
  have rotated := sound.rotated tears.room
  exact rotated.rewritten rotated.topped.find?_active rfl rfl rfl

theorem Tears.grows {queue torn : DiskQueue} {payload : Bytes} (tears : Tears queue payload torn) :
    torn.cursor = queue.cursor ∧ queue.activeSegmentId ≤ torn.activeSegmentId := by
  obtain ⟨file, piece, -, -, -, rfl⟩ := tears.left
  exact ⟨cursor_rotated queue payload, activeSegmentId_rotated queue payload⟩

/-- An outstanding batch stays one while the cursor does and the queue only grows. -/
theorem Sound.grown (sound : state.Sound) (queue : next.queue.Sound)
    (unmoved : next.queue.cursor = state.queue.cursor)
    (grows : state.queue.activeSegmentId ≤ next.queue.activeSegmentId)
    (pending : next.pending = state.pending) : next.Sound := by
  refine ⟨queue, ?_⟩
  intro outstanding same
  rw [pending] at same
  obtain ⟨⟨low, high, small⟩, still⟩ := sound.pending outstanding same
  rw [unmoved]
  exact ⟨⟨unmoved ▸ low, high.trans grows, small⟩, still⟩

theorem Sound.settled (queue : next.queue.Sound) (none : next.pending = none) : next.Sound :=
  ⟨queue, fun outstanding same => by rw [none] at same; cases same⟩

theorem step_sound (sound : state.Sound) {operation : Operation}
    (taken : state.step operation = some next) : next.Sound := by
  cases operation with
  | enqueue payload =>
    rcases step_enqueue taken with ⟨full, small, room, bytes, rfl⟩ | rfl
    · exact sound.grown (sound.queue.enqueued room) (cursor_rotated _ _)
        (activeSegmentId_rotated _ _) rfl
    · exact sound
  | tear payload cut restart =>
    obtain ⟨torn, tears, ⟨-, rfl⟩ | ⟨options, -, rfl⟩⟩ := step_tear taken
    · exact sound.grown (tears.sound sound.queue) tears.grows.1 tears.grows.2 rfl
    · exact .settled ((tears.sound sound.queue).reopened options) rfl
  | readBatch maxItems =>
    obtain ⟨batch, later, -, took, rfl⟩ := step_readBatch sound.queue.toShaped taken
    refine ⟨took.sound sound.queue, ?_⟩
    intro outstanding same
    cases same
    exact ⟨took.within, took.still⟩
  | commitBatch =>
    obtain ⟨outstanding, pending, rfl⟩ := step_commitBatch taken
    exact .settled (sound.queue.afterCommit (sound.pending outstanding pending).1) rfl
  | drain maxItems accepts =>
    obtain ⟨payloads, later, sofar, rfl⟩ := step_drain sound.queue taken
    exact .settled sofar.sound rfl
  | drainBatch maxItems accepts =>
    obtain ⟨batch, later, -, took, rfl | ⟨-, rfl⟩⟩ := step_drainBatch sound.queue taken
    · exact .settled ((took.sound sound.queue).afterCommit took.within) rfl
    · exact .settled (took.sound sound.queue) rfl
  | reopen options =>
    cases taken
    exact .settled (sound.queue.reopened options) rfl
  | damage id file =>
    simp only [step] at taken
    cases found : state.queue.dir.segments.find? id with
    | none =>
      rw [found] at taken
      cases taken
    | some old =>
      rw [found] at taken
      cases taken
      exact sound.grown (sound.queue.rewritten found rfl rfl rfl) rfl le_rfl rfl

/-- The states of all runs on a directory that was empty at the start. -/
def Reachable (state : RunState) : Prop :=
  ∃ path options, Reaches step (fun _ _ => True) (start path options) state

theorem Reachable.of_run {path : String} {options : DiskQueueOptions} {operations : List Operation}
    (ran : run step (start path options) operations = some state) : state.Reachable :=
  ⟨path, options, .of_run (fun _ _ _ => trivial) ran⟩

theorem Reachable.sound (reachable : state.Reachable) : state.Sound := by
  obtain ⟨path, options, reached⟩ := reachable
  exact reached.invariant (start_sound path options) (fun kept _ taken => step_sound kept taken)

end RunState

end TelemetryFabric.Buffer
