import TelemetryFabric.Buffer.Batch
import TelemetryFabric.Buffer.Rules

/-!
Reading comes to an end. The loops of `read_batch` and `drain` are followed here as they are
written, without a bound of their own, together with the `read_step_at` calls they make. What
a call does when the file system lets it return is what it does when nothing fails, and so the
calls of a run are bounded by the records asked for and the segments ahead.
-/

namespace TelemetryFabric.Buffer
open Library

/-! ### The calls -/

structure ReadCall where
  cursor : Cursor
  session : Session

namespace ReadCall

def before (call : ReadCall) : DiskQueue := call.session.queue

def after (call : ReadCall) : DiskQueue :=
  match readStepAt call.cursor call.session with
  | .ok _ later => later.queue
  | .error _ later => later.queue

/-- The step the call returns, if it returns one. -/
def step? (call : ReadCall) : Option ReadStep :=
  match readStepAt call.cursor call.session with
  | .ok step _ => some step
  | .error _ _ => none

def isRecord (call : ReadCall) : Bool :=
  match call.step? with
  | some (.record _ _) => true
  | _ => false

/-- The loop goes on from here. -/
def continues (call : ReadCall) : Prop := ∃ step next, call.step? = some step ∧ step.target = some next

/-- A record step goes on in its segment, a move in a later one. -/
def Advances (call : ReadCall) : Prop :=
  match call.step? with
  | some (.record _ next) =>
      next.segmentId = call.cursor.segmentId ∧ call.cursor.offset + recordHeaderLen ≤ next.offset
  | some (.move next) => call.cursor.segmentId < next.segmentId
  | _ => True

/-- The segments there are after the call and were not before. -/
def created (call : ReadCall) : List Nat :=
  call.after.dir.segments.keys.filter fun id => id ∉ call.before.dir.segments.keys

end ReadCall

theorem StepsTo.move_lt {queue later : DiskQueue} {cursor next : Cursor}
    (steps : StepsTo queue cursor (.move next) later) : cursor.segmentId < next.segmentId := by
  have above : ∀ {id : Nat}, ReadStep.move next =
      moveOrEmpty ((queue.dir.segments.above id).head?.map (fun entry => ⟨entry.1, 0⟩)) →
      id < next.segmentId := by
    intro id moved
    obtain ⟨head, rest, listing, rfl⟩ := moveOrEmpty_eq_move moved.symm
    have member : head ∈ queue.dir.segments.above id := by
      rw [listing]
      exact List.mem_cons_self
    simpa using (List.mem_filter.mp member).2
  generalize moved : ReadStep.move next = step at steps
  cases steps with
  | missing absent => exact above moved
  | record => cases moved
  | finished => cases moved
  | leave => exact above moved
  | quarantine => exact above moved
  | replace =>
    cases moved
    exact Nat.lt_succ_self _

/-- Only the replacement of the active segment adds a file, and it adds one. -/
theorem StepsTo.keys {queue later : DiskQueue} {cursor : Cursor} {step : ReadStep}
    (steps : StepsTo queue cursor step later) :
    (∀ id ∈ later.dir.segments.keys, id ∈ queue.dir.segments.keys) ∨
      ∃ next, step = .move next ∧ later.AtFreshActive next ∧
        ∀ id ∈ later.dir.segments.keys, id ∈ queue.dir.segments.keys ∨ id = next.segmentId := by
  have aside : ∀ {suffix file reason}, queue.dir.segments.find? cursor.segmentId = some file →
      ∀ id ∈ (queue.setAside cursor.segmentId suffix file reason).dir.segments.keys,
        id ∈ queue.dir.segments.keys := by
    intro suffix file reason found id listed
    rw [setAside_segments found] at listed
    exact ((OrderedMap.mem_keys_erase _ _ _).mp listed).2
  cases steps with
  | missing => exact Or.inl fun _ listed => listed
  | record => exact Or.inl fun _ listed => listed
  | finished => exact Or.inl fun _ listed => listed
  | leave => exact Or.inl fun _ listed => listed
  | quarantine file suffix reason found => exact Or.inl (aside found)
  | replace file suffix reason found =>
    refine Or.inr ⟨_, rfl, ⟨rfl, rfl, OrderedMap.find?_insert_self _ _ _⟩, ?_⟩
    intro id listed
    rcases (OrderedMap.mem_keys_insert _ _ _ _).mp listed with rfl | listed
    · exact Or.inr rfl
    · exact Or.inl (aside found id listed)

/-- Every segment of the queue is one of the known ones. -/
def DiskQueue.Listed (known : List Nat) (queue : DiskQueue) : Prop :=
  ∀ id ∈ queue.dir.segments.keys, id ∈ known

theorem listed_rules (known : List Nat) : SparedByReads (DiskQueue.Listed known) where
  aside := by
    intro queue id file suffix listed found other remaining
    dsimp only [Directory.renameCorrupt] at remaining
    rw [found] at remaining
    exact listed other ((OrderedMap.mem_keys_erase _ _ _).mp remaining).2
  reason := fun _ _ _ listed => listed
  numbered := fun listed _ => listed

namespace ReadCall

variable {call : ReadCall}

theorem steps {step : ReadStep} (read : call.step? = some step) :
    StepsTo call.before call.cursor step call.after := by
  unfold ReadCall.step? at read
  unfold ReadCall.after
  cases ran : readStepAt call.cursor call.session with
  | ok value later =>
    rw [ran] at read
    cases read
    exact StepsTo.of_returned ran
  | error halt later =>
    rw [ran] at read
    cases read

theorem advances (call : ReadCall) : call.Advances := by
  unfold ReadCall.Advances
  cases read : call.step? with
  | none => trivial
  | some step =>
    have steps := ReadCall.steps read
    cases step with
    | record payload next =>
      obtain ⟨-, rfl, -⟩ := steps.of_record
      exact ⟨rfl, Nat.le_add_right _ _⟩
    | move next => exact steps.move_lt
    | empty => trivial

theorem created_eq_nil (known : ∀ id ∈ call.after.dir.segments.keys, id ∈ call.before.dir.segments.keys) :
    call.created = [] := by
  rw [ReadCall.created, List.filter_eq_nil_iff]
  intro id listed
  simpa using known id listed

theorem created_of_failed (failed : call.step? = none) : call.created = [] := by
  apply created_eq_nil
  have spares := readStepAt_spares (listed_rules call.before.dir.segments.keys) call.cursor call.session
    (fun _ listed => listed)
  unfold ReadCall.step? at failed
  unfold ReadCall.after
  cases ran : readStepAt call.cursor call.session with
  | ok step later =>
    rw [ran] at failed
    cases failed
  | error halt later =>
    rw [ran] at spares
    exact spares

/-- A call makes at most one segment, and moves to the start of it. -/
theorem created_cases (call : ReadCall) :
    call.created = [] ∨ call.created.length ≤ 1 ∧
      ∃ next, call.step? = some (.move next) ∧ call.after.AtFreshActive next := by
  cases read : call.step? with
  | none => exact Or.inl (created_of_failed read)
  | some step =>
    rcases (ReadCall.steps read).keys with known | ⟨next, rfl, fresh, known⟩
    · exact Or.inl (created_eq_nil known)
    · refine Or.inr ⟨?_, next, rfl, fresh⟩
      have distinct : call.created.Nodup :=
        call.after.dir.segments.nodup_keys.filter _
      have one : call.created ⊆ [next.segmentId] := by
        intro id member
        obtain ⟨listed, new⟩ := List.mem_filter.mp member
        rcases known id listed with old | rfl
        · simp [old] at new
        · exact List.mem_singleton_self _
      exact distinct.length_le_of_subset one

/-- At the start of an empty active segment a call goes nowhere and makes nothing. -/
theorem of_fresh (fresh : call.before.AtFreshActive call.cursor) :
    ¬ call.continues ∧ call.created = [] := by
  cases read : call.step? with
  | none => exact ⟨by simp [ReadCall.continues, read], created_of_failed read⟩
  | some step =>
    obtain ⟨rfl, same⟩ := (ReadCall.steps read).of_fresh fresh
    refine ⟨by simp [ReadCall.continues, read, ReadStep.target], created_eq_nil ?_⟩
    rw [same]
    exact fun _ listed => listed

end ReadCall

/-! ### The calls of a loop -/

/-- Calls one behind the other, each where the step before it goes on; a commit may come
between two of them. -/
inductive Calls : DiskQueue → Cursor → List ReadCall → Prop where
  | nil {queue : DiskQueue} {cursor : Cursor} : Calls queue cursor []
  | last {queue : DiskQueue} {call : ReadCall} (here : call.before = queue) : Calls queue call.cursor [call]
  | more {queue later : DiskQueue} {call : ReadCall} {step : ReadStep} {next : Cursor} {calls : List ReadCall}
      (here : call.before = queue) (read : call.step? = some step) (target : step.target = some next)
      (left : later = call.after ∨ later = call.after.committed next) (rest : Calls later next calls) :
      Calls queue call.cursor (call :: calls)

theorem atFreshActive_committed {queue : DiskQueue} {next : Cursor} (fresh : queue.AtFreshActive next) :
    (queue.committed next).AtFreshActive next :=
  ⟨fresh.1, fresh.2.1, (find?_committed queue le_rfl).trans fresh.2.2⟩

namespace Calls

variable {queue : DiskQueue} {cursor : Cursor} {calls : List ReadCall}

theorem of_fresh (chain : Calls queue cursor calls) (fresh : queue.AtFreshActive cursor) :
    calls = [] ∨ ∃ call, calls = [call] ∧ ¬ call.continues ∧ call.created = [] := by
  cases chain with
  | nil => exact Or.inl rfl
  | last here =>
    subst here
    exact Or.inr ⟨_, rfl, ReadCall.of_fresh fresh⟩
  | more here read target left rest =>
    subst here
    exact absurd ⟨_, _, read, target⟩ (ReadCall.of_fresh fresh).1

/-- A call for every record, one for every segment moved to, one for a segment made in
between, and the one that ends the loop. -/
theorem bound (chain : Calls queue cursor calls) :
    calls.length ≤ calls.countP ReadCall.isRecord + queue.segmentsAhead cursor + 2 ∧
      ((∀ call ∈ calls, call.continues) →
        calls.length ≤ calls.countP ReadCall.isRecord + queue.segmentsAhead cursor + 1) := by
  induction chain with
  | nil => exact ⟨Nat.zero_le _, fun _ => Nat.zero_le _⟩
  | last here =>
    rw [List.length_singleton]
    omega
  | @more queue later call step next calls here read target left rest ih =>
    subst here
    have steps := ReadCall.steps read
    have ahead : later.segmentsAhead next = call.after.segmentsAhead next := by
      rcases left with rfl | rfl
      · rfl
      · exact segmentsAhead_committed call.after next
    rw [List.length_cons, List.countP_cons, List.forall_mem_cons]
    cases step with
    | record payload following =>
      cases target
      have counted : call.isRecord = true := by rw [ReadCall.isRecord, read]
      obtain ⟨same, moved, -⟩ := steps.of_record
      have unmoved : call.after.segmentsAhead next = call.before.segmentsAhead call.cursor := by
        rw [same, moved]
        rfl
      rw [if_pos counted]
      refine ⟨by omega, ?_⟩
      intro onward
      have shorter := ih.2 onward.2
      omega
    | move following =>
      cases target
      rcases steps.ahead_lt with less | fresh
      · refine ⟨by omega, ?_⟩
        intro onward
        have shorter := ih.2 onward.2
        omega
      · have freshLater : later.AtFreshActive next := by
          rcases left with rfl | rfl
          · exact fresh
          · exact atFreshActive_committed fresh
        rcases rest.of_fresh freshLater with rfl | ⟨other, rfl, stops, -⟩
        · rw [List.length_nil]
          omega
        · refine ⟨?_, ?_⟩
          · rw [List.length_singleton]
            omega
          · intro onward
            exact absurd (onward.2 other List.mem_cons_self) stops
    | empty => cases target

/-- All calls together make at most one segment. -/
theorem created (chain : Calls queue cursor calls) : (calls.flatMap ReadCall.created).length ≤ 1 := by
  induction chain with
  | nil => exact Nat.zero_le _
  | @last queue call here =>
    rw [List.flatMap_singleton]
    rcases call.created_cases with none | ⟨one, -⟩
    · rw [none]
      exact Nat.zero_le _
    · exact one
  | @more queue later call step next calls here read target left rest ih =>
    rw [List.flatMap_cons, List.length_append]
    rcases call.created_cases with none | ⟨one, other, moved, fresh⟩
    · rw [none, List.length_nil, Nat.zero_add]
      exact ih
    · rw [read] at moved
      cases moved
      cases target
      have freshLater : later.AtFreshActive next := by
        rcases left with rfl | rfl
        · exact fresh
        · exact atFreshActive_committed fresh
      rcases rest.of_fresh freshLater with rfl | ⟨last, rfl, -, nothing⟩
      · exact one
      · rw [List.flatMap_singleton, nothing]
        exact one

end Calls

/-! ### The loops as they are written -/

theorem step?_eq {session later : Session} {cursor : Cursor} {step : ReadStep}
    (read : readStepAt cursor session = .ok step later) :
    (ReadCall.mk cursor session).step? = some step ∧ (ReadCall.mk cursor session).after = later.queue := by
  simp only [ReadCall.step?, ReadCall.after, read, and_self]

/-- The loop of `read_batch` and the calls it makes until it ends. -/
inductive ReadRun (maxItems : Nat) : Cursor → Cursor → Bool → List Bytes → Session → List ReadCall →
    EStateM.Result Halt Session PendingBatch → Prop where
  | full {cursor finalCursor commit batch session} (enough : ¬ batch.length < maxItems) :
      ReadRun maxItems cursor finalCursor commit batch session [] (.ok ⟨batch, finalCursor, commit⟩ session)
  | record {cursor finalCursor commit batch session payload next later calls result}
      (wanted : batch.length < maxItems) (read : readStepAt cursor session = .ok (.record payload next) later)
      (rest : ReadRun maxItems next next commit (batch ++ [payload]) later calls result) :
      ReadRun maxItems cursor finalCursor commit batch session (⟨cursor, session⟩ :: calls) result
  | move {cursor finalCursor commit batch session next later calls result}
      (wanted : batch.length < maxItems) (read : readStepAt cursor session = .ok (.move next) later)
      (rest : ReadRun maxItems next next true batch later calls result) :
      ReadRun maxItems cursor finalCursor commit batch session (⟨cursor, session⟩ :: calls) result
  | empty {cursor finalCursor commit batch session later}
      (wanted : batch.length < maxItems) (read : readStepAt cursor session = .ok .empty later) :
      ReadRun maxItems cursor finalCursor commit batch session [⟨cursor, session⟩]
        (.ok ⟨batch, finalCursor, commit⟩ later)
  | failed {cursor finalCursor commit batch session halt later}
      (wanted : batch.length < maxItems) (read : readStepAt cursor session = .error halt later) :
      ReadRun maxItems cursor finalCursor commit batch session [⟨cursor, session⟩] (.error halt later)

/-- The loop of `drain` and the calls it makes until it ends. -/
inductive DrainRun {σ : Type} (sink : Sink σ Bytes) (maxItems : Nat) : Nat → σ → Session → List ReadCall →
    EStateM.Result Halt Session (Except DiskQueueError Nat × σ) → Prop where
  | full {drained captured session} (enough : ¬ drained < maxItems) :
      DrainRun sink maxItems drained captured session [] (.ok (.ok drained, captured) session)
  | record {drained captured after session payload next later last calls result} (wanted : drained < maxItems)
      (read : readStepAt session.queue.cursor session = .ok (.record payload next) later)
      (offered : sink captured payload = (.ok (), after)) (moved : commitCursor next later = .ok () last)
      (rest : DrainRun sink maxItems (drained + 1) after last calls result) :
      DrainRun sink maxItems drained captured session (⟨session.queue.cursor, session⟩ :: calls) result
  | refused {drained captured after session payload next later error} (wanted : drained < maxItems)
      (read : readStepAt session.queue.cursor session = .ok (.record payload next) later)
      (offered : sink captured payload = (.error error, after)) :
      DrainRun sink maxItems drained captured session [⟨session.queue.cursor, session⟩]
        (.ok (.error error, after) later)
  | uncommitted {drained captured after session payload next later last halt} (wanted : drained < maxItems)
      (read : readStepAt session.queue.cursor session = .ok (.record payload next) later)
      (offered : sink captured payload = (.ok (), after)) (moved : commitCursor next later = .error halt last) :
      DrainRun sink maxItems drained captured session [⟨session.queue.cursor, session⟩] (.error halt last)
  | move {drained captured session next later last calls result} (wanted : drained < maxItems)
      (read : readStepAt session.queue.cursor session = .ok (.move next) later)
      (moved : commitCursor next later = .ok () last)
      (rest : DrainRun sink maxItems drained captured last calls result) :
      DrainRun sink maxItems drained captured session (⟨session.queue.cursor, session⟩ :: calls) result
  | unmoved {drained captured session next later last halt} (wanted : drained < maxItems)
      (read : readStepAt session.queue.cursor session = .ok (.move next) later)
      (moved : commitCursor next later = .error halt last) :
      DrainRun sink maxItems drained captured session [⟨session.queue.cursor, session⟩] (.error halt last)
  | empty {drained captured session later} (wanted : drained < maxItems)
      (read : readStepAt session.queue.cursor session = .ok .empty later) :
      DrainRun sink maxItems drained captured session [⟨session.queue.cursor, session⟩]
        (.ok (.ok drained, captured) later)
  | failed {drained captured session halt later} (wanted : drained < maxItems)
      (read : readStepAt session.queue.cursor session = .error halt later) :
      DrainRun sink maxItems drained captured session [⟨session.queue.cursor, session⟩] (.error halt later)

/-- Calls one behind the other with no more records than are wanted. -/
structure CallsFor (queue : DiskQueue) (cursor : Cursor) (wanted : Nat) (calls : List ReadCall) : Prop where
  chain : Calls queue cursor calls
  records : calls.countP ReadCall.isRecord ≤ wanted

namespace CallsFor

variable {session later : Session} {cursor next : Cursor} {left : DiskQueue} {wanted : Nat}
  {calls : List ReadCall}

theorem nil {queue : DiskQueue} : CallsFor queue cursor wanted [] := ⟨.nil, Nat.zero_le _⟩

theorem last (room : 0 < wanted) : CallsFor session.queue cursor wanted [⟨cursor, session⟩] := by
  have alone : Calls session.queue cursor [⟨cursor, session⟩] := @Calls.last _ ⟨cursor, session⟩ rfl
  refine ⟨alone, ?_⟩
  have one := List.countP_le_length (p := ReadCall.isRecord) (l := [⟨cursor, session⟩])
  rw [List.length_singleton] at one
  omega

theorem record {payload : Bytes} (read : readStepAt cursor session = .ok (.record payload next) later)
    (same : left = later.queue ∨ left = later.queue.committed next) (room : 0 < wanted)
    (rest : CallsFor left next (wanted - 1) calls) :
    CallsFor session.queue cursor wanted (⟨cursor, session⟩ :: calls) := by
  obtain ⟨step, after⟩ := step?_eq read
  rw [← after] at same
  have chain : Calls session.queue cursor (⟨cursor, session⟩ :: calls) :=
    @Calls.more _ _ ⟨cursor, session⟩ _ _ _ rfl step rfl same rest.chain
  refine ⟨chain, ?_⟩
  have records := rest.records
  have counted : (ReadCall.mk cursor session).isRecord = true := by rw [ReadCall.isRecord, step]
  rw [List.countP_cons, if_pos counted]
  omega

theorem move (read : readStepAt cursor session = .ok (.move next) later)
    (same : left = later.queue ∨ left = later.queue.committed next) (rest : CallsFor left next wanted calls) :
    CallsFor session.queue cursor wanted (⟨cursor, session⟩ :: calls) := by
  obtain ⟨step, after⟩ := step?_eq read
  rw [← after] at same
  have chain : Calls session.queue cursor (⟨cursor, session⟩ :: calls) :=
    @Calls.more _ _ ⟨cursor, session⟩ _ _ _ rfl step rfl same rest.chain
  refine ⟨chain, ?_⟩
  have records := rest.records
  have counted : ¬ (ReadCall.mk cursor session).isRecord = true := by
    rw [ReadCall.isRecord, step]
    exact Bool.false_ne_true
  rw [List.countP_cons, if_neg counted]
  exact records

end CallsFor

/-- As many calls as there is fuel, and none of them has ended the loop. -/
def GoesOn (queue : DiskQueue) (cursor : Cursor) (wanted fuel : Nat) : Prop :=
  ∃ calls, calls.length = fuel ∧ CallsFor queue cursor wanted calls ∧ ∀ call ∈ calls, call.continues

theorem GoesOn.bound {queue : DiskQueue} {cursor : Cursor} {wanted fuel : Nat}
    (on : GoesOn queue cursor wanted fuel) : fuel ≤ wanted + queue.segmentsAhead cursor + 1 := by
  obtain ⟨calls, rfl, within, onward⟩ := on
  have bound := within.chain.bound.2 onward
  have records := within.records
  omega

theorem GoesOn.record {session later : Session} {cursor next : Cursor} {left : DiskQueue} {wanted fuel : Nat}
    {payload : Bytes} (read : readStepAt cursor session = .ok (.record payload next) later)
    (same : left = later.queue ∨ left = later.queue.committed next) (room : 0 < wanted)
    (on : GoesOn left next (wanted - 1) fuel) : GoesOn session.queue cursor wanted (fuel + 1) := by
  obtain ⟨calls, rfl, within, onward⟩ := on
  refine ⟨_, rfl, within.record read same room, ?_⟩
  rw [List.forall_mem_cons]
  exact ⟨⟨_, _, (step?_eq read).1, rfl⟩, onward⟩

theorem GoesOn.move {session later : Session} {cursor next : Cursor} {left : DiskQueue} {wanted fuel : Nat}
    (read : readStepAt cursor session = .ok (.move next) later)
    (same : left = later.queue ∨ left = later.queue.committed next)
    (on : GoesOn left next wanted fuel) : GoesOn session.queue cursor wanted (fuel + 1) := by
  obtain ⟨calls, rfl, within, onward⟩ := on
  refine ⟨_, rfl, within.move read same, ?_⟩
  rw [List.forall_mem_cons]
  exact ⟨⟨_, _, (step?_eq read).1, rfl⟩, onward⟩

/-! ### The loop of `read_batch` -/

theorem ReadRun.callsFor {maxItems : Nat} {cursor finalCursor : Cursor} {commit : Bool} {batch : List Bytes}
    {session : Session} {calls : List ReadCall} {result : EStateM.Result Halt Session PendingBatch}
    (run : ReadRun maxItems cursor finalCursor commit batch session calls result) :
    CallsFor session.queue cursor (maxItems - batch.length) calls := by
  induction run with
  | full enough => exact .nil
  | record wanted read rest ih =>
    rw [List.length_append, List.length_singleton, ← Nat.sub_sub] at ih
    exact ih.record read (Or.inl rfl) (by omega)
  | move wanted read rest ih => exact ih.move read (Or.inl rfl)
  | empty wanted read => exact .last (by omega)
  | failed wanted read => exact .last (by omega)

theorem readLoop_runs (maxItems fuel : Nat) (cursor finalCursor : Cursor) (commit : Bool) (batch : List Bytes)
    (session : Session) :
    (∃ calls, ReadRun maxItems cursor finalCursor commit batch session calls
      (readLoop maxItems fuel cursor finalCursor commit batch session)) ∨
    GoesOn session.queue cursor (maxItems - batch.length) fuel := by
  induction fuel generalizing cursor finalCursor commit batch session with
  | zero => exact Or.inr ⟨[], rfl, .nil, fun _ none => nomatch none⟩
  | succ fuel ih =>
    rw [readLoop]
    by_cases wanted : batch.length < maxItems
    · rw [if_pos wanted, bind_apply]
      cases read : readStepAt cursor session with
      | error halt later => exact Or.inl ⟨_, .failed wanted read⟩
      | ok step later =>
        cases step with
        | record payload next =>
          rcases ih next next commit (batch ++ [payload]) later with ⟨calls, rest⟩ | on
          · exact Or.inl ⟨_, .record wanted read rest⟩
          · rw [List.length_append, List.length_singleton, ← Nat.sub_sub] at on
            exact Or.inr (on.record read (Or.inl rfl) (by omega))
        | move next =>
          rcases ih next next true batch later with ⟨calls, rest⟩ | on
          · exact Or.inl ⟨_, .move wanted read rest⟩
          · exact Or.inr (on.move read (Or.inl rfl))
        | empty => exact Or.inl ⟨_, .empty wanted read⟩
    · rw [if_neg wanted]
      exact Or.inl ⟨_, .full wanted⟩

/-- A whole `read_batch` and the calls it makes: none if it panics before its loop. -/
inductive BatchRun (maxItems : Nat) (session : Session) : List ReadCall →
    EStateM.Result Halt Session PendingBatch → Prop where
  | panicked (large : maxBatchItems < maxItems) : BatchRun maxItems session [] (.error .panicked session)
  | looped {calls result} (fits : maxItems ≤ maxBatchItems)
      (run : ReadRun maxItems session.queue.cursor session.queue.cursor false [] session calls result) :
      BatchRun maxItems session calls result

theorem BatchRun.callsFor {maxItems : Nat} {session : Session} {calls : List ReadCall}
    {result : EStateM.Result Halt Session PendingBatch} (run : BatchRun maxItems session calls result) :
    CallsFor session.queue session.queue.cursor maxItems calls := by
  cases run with
  | panicked large => exact .nil
  | looped fits run => exact run.callsFor

theorem readBatch_runs (maxItems : Nat) (session : Session) :
    ∃ calls, BatchRun maxItems session calls (readBatch maxItems session) := by
  by_cases fits : maxItems ≤ maxBatchItems
  · by_cases nothing : maxItems = 0
    · subst nothing
      exact ⟨[], .looped fits (.full (Nat.not_lt_zero _))⟩
    · rw [readBatch_fits nothing fits]
      rcases readLoop_runs maxItems (session.queue.stepBound maxItems) session.queue.cursor session.queue.cursor
        false [] session with ⟨calls, run⟩ | on
      · exact ⟨calls, .looped fits run⟩
      · have enough := on.bound
        have ahead := segmentsAhead_le_entries session.queue session.queue.cursor
        rw [DiskQueue.stepBound, List.length_nil] at enough
        omega
  · rw [readBatch_panics (Nat.not_le.mp fits)]
    exact ⟨[], .panicked (Nat.not_le.mp fits)⟩

/-! ### The loop of `drain` -/

section Drain

variable {σ : Type} {sink : Sink σ Bytes} {maxItems : Nat}

theorem DrainRun.callsFor {drained : Nat} {captured : σ} {session : Session} {calls : List ReadCall}
    {result : EStateM.Result Halt Session (Except DiskQueueError Nat × σ)}
    (run : DrainRun sink maxItems drained captured session calls result) :
    CallsFor session.queue session.queue.cursor (maxItems - drained) calls := by
  induction run with
  | full enough => exact .nil
  | record wanted read offered moved rest ih =>
    have left := queue_committed moved
    rw [left, ← Nat.sub_sub] at ih
    exact ih.record read (Or.inr rfl) (by omega)
  | refused wanted read offered => exact .last (by omega)
  | uncommitted wanted read offered moved => exact .last (by omega)
  | move wanted read moved rest ih =>
    have left := queue_committed moved
    rw [left] at ih
    exact ih.move read (Or.inr rfl)
  | unmoved wanted read moved => exact .last (by omega)
  | empty wanted read => exact .last (by omega)
  | failed wanted read => exact .last (by omega)

theorem drainLoop_runs (sink : Sink σ Bytes) (maxItems fuel drained : Nat) (captured : σ) (session : Session) :
    (∃ calls, DrainRun sink maxItems drained captured session calls
      (drainLoop sink maxItems fuel drained captured session)) ∨
    GoesOn session.queue session.queue.cursor (maxItems - drained) fuel := by
  induction fuel generalizing drained captured session with
  | zero => exact Or.inr ⟨[], rfl, .nil, fun _ none => nomatch none⟩
  | succ fuel ih =>
    rw [drainLoop]
    by_cases wanted : drained < maxItems
    · rw [if_pos wanted, bind_apply, getQueue_apply]
      simp only [bind_apply]
      cases read : readStepAt session.queue.cursor session with
      | error halt later => exact Or.inl ⟨_, .failed wanted read⟩
      | ok step later =>
        cases step with
        | record payload next =>
          cases offered : sink captured payload with
          | mk answer after =>
            cases answer with
            | error error =>
              simp only [offered, pure_apply]
              exact Or.inl ⟨_, .refused wanted read offered⟩
            | ok done =>
              simp only [offered, bind_apply]
              cases moved : commitCursor next later with
              | error halt last => exact Or.inl ⟨_, .uncommitted wanted read offered moved⟩
              | ok done last =>
                rcases ih (drained + 1) after last with ⟨calls, rest⟩ | on
                · exact Or.inl ⟨_, .record wanted read offered moved rest⟩
                · have left := queue_committed moved
                  rw [left, ← Nat.sub_sub] at on
                  exact Or.inr (on.record read (Or.inr rfl) (by omega))
        | move next =>
          simp only [bind_apply]
          cases moved : commitCursor next later with
          | error halt last => exact Or.inl ⟨_, .unmoved wanted read moved⟩
          | ok done last =>
            rcases ih drained captured last with ⟨calls, rest⟩ | on
            · exact Or.inl ⟨_, .move wanted read moved rest⟩
            · have left := queue_committed moved
              rw [left] at on
              exact Or.inr (on.move read (Or.inr rfl))
        | empty => exact Or.inl ⟨_, .empty wanted read⟩
    · rw [if_neg wanted]
      exact Or.inl ⟨_, .full wanted⟩

theorem drain_runs (sink : Sink σ Bytes) (maxItems : Nat) (captured : σ) (session : Session) :
    ∃ calls, DrainRun sink maxItems 0 captured session calls (drain maxItems sink captured session) := by
  unfold drain
  rw [bind_apply, getQueue_apply]
  rcases drainLoop_runs sink maxItems (session.queue.stepBound maxItems) 0 captured session with run | on
  · exact run
  · have enough := on.bound
    have ahead := segmentsAhead_le_entries session.queue session.queue.cursor
    rw [DiskQueue.stepBound] at enough
    omega

end Drain

/-! ### Both end -/

/-- What the calls of one `read_batch` or `drain` come to. -/
structure EndsWithin (queue : DiskQueue) (maxItems : Nat) (calls : List ReadCall) : Prop where
  count : calls.length ≤ maxItems + queue.dir.segments.entries.length + 2
  advances : ∀ call ∈ calls, call.Advances
  created : (calls.flatMap ReadCall.created).length ≤ 1

theorem CallsFor.endsWithin {queue : DiskQueue} {cursor : Cursor} {maxItems : Nat} {calls : List ReadCall}
    (within : CallsFor queue cursor maxItems calls) : EndsWithin queue maxItems calls where
  count := by
    have bound := within.chain.bound.1
    have records := within.records
    have ahead := segmentsAhead_le_entries queue cursor
    omega
  advances call _ := call.advances
  created := within.chain.created

/-- Whatever is in the directory, wherever the cursor stands and whichever calls fail: both loops
come to their end, and every run of them stays within the bound. -/
theorem reading_ends {σ : Type} (maxItems : Nat) (sink : Sink σ Bytes) (captured : σ) (session : Session) :
    ((∃ calls, BatchRun maxItems session calls (readBatch maxItems session)) ∧
      ∀ calls result, BatchRun maxItems session calls result → EndsWithin session.queue maxItems calls) ∧
    (∃ calls, DrainRun sink maxItems 0 captured session calls (drain maxItems sink captured session)) ∧
      ∀ calls result, DrainRun sink maxItems 0 captured session calls result →
        EndsWithin session.queue maxItems calls := by
  have read : ∀ calls result, BatchRun maxItems session calls result → EndsWithin session.queue maxItems calls :=
    fun _ _ run => run.callsFor.endsWithin
  have drained : ∀ calls result, DrainRun sink maxItems 0 captured session calls result →
      EndsWithin session.queue maxItems calls := fun _ _ run => run.callsFor.endsWithin
  exact ⟨⟨readBatch_runs maxItems session, read⟩, drain_runs sink maxItems captured session, drained⟩

end TelemetryFabric.Buffer
