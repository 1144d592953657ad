import Mathlib.Data.List.Forall2
import TelemetryFabric.Agent.Steering
import TelemetryFabric.Buffer.Fifo

/-!
No record is lost between the lock acquisitions of ingests, reloads, pauses and flush
tasks, and none is exported twice unless the first export failed. The records of the
outstanding flush are the head of the queue, and they stay there until it commits them.
-/

namespace TelemetryFabric.Agent
open Library TelemetryFabric.Core Buffer Processors

variable {E : Type}

/-- What the processors made of the record at a position, if it was in the batch. -/
def Call.decision (call : Call) (position : Nat) : Option (Option TelemetryRecord) :=
  if call.first ≤ position then call.decisions[position - call.first]? else none

/-- The record at a position was dropped by the processors. -/
def Call.Drops (call : Call) (position : Nat) : Prop := call.decision position = some none

/-- The record at a position is in the record list of the call. -/
def Call.Hands (call : Call) (position : Nat) : Prop :=
  ∃ processed ∈ call.records, call.decision position = some (some processed)

def Call.Succeeded (call : Call) : Prop := ∃ report, call.outcome = .ok report

/-- A call was made for records that had been ingested, one decision for each, with the
records that were not dropped. -/
structure Call.Of (call : Call) (ingested : List TelemetryRecord) : Prop where
  batch : List.Forall₂ (fun payload record => TelemetryRecord.encode record = .ok payload) call.payloads
    ((ingested.drop call.first).take call.payloads.length)
  decided : call.decisions.length = call.payloads.length
  records : call.records = call.decisions.filterMap id

namespace Call.Of

variable {call : Call} {ingested : List TelemetryRecord}

theorem ends (made : call.Of ingested) (starts : call.first ≤ ingested.length) :
    call.first + call.decisions.length ≤ ingested.length := by
  have size := made.batch.length_eq
  have decided := made.decided
  simp only [List.length_take, List.length_drop] at size
  omega

theorem append (made : call.Of ingested) (starts : call.first ≤ ingested.length) (record : TelemetryRecord) :
    call.Of (ingested ++ [record]) := by
  refine ⟨?_, made.decided, made.records⟩
  have size := made.batch.length_eq
  rw [List.length_take, List.length_drop] at size
  rw [List.drop_append_of_le_length starts, List.take_append_of_le_length]
  · exact made.batch
  · rw [List.length_drop]
    omega

theorem hands_of_decision (made : call.Of ingested) {position : Nat} {processed : TelemetryRecord}
    (decided : call.decision position = some (some processed)) : call.Hands position := by
  refine ⟨processed, ?_, decided⟩
  rw [made.records, List.mem_filterMap]
  unfold Call.decision at decided
  split_ifs at decided
  exact ⟨some processed, List.mem_of_getElem? decided, rfl⟩

end Call.Of

theorem Call.decision_bounds {call : Call} {position : Nat} {found : Option TelemetryRecord}
    (decided : call.decision position = some found) :
    call.first ≤ position ∧ position < call.first + call.decisions.length := by
  unfold Call.decision at decided
  split_ifs at decided with starts
  obtain ⟨bound, -⟩ := List.getElem?_eq_some_iff.mp decided
  exact ⟨starts, by omega⟩

theorem Call.decision_of_bounds {call : Call} {position : Nat} (starts : call.first ≤ position)
    (ends : position < call.first + call.decisions.length) : ∃ found, call.decision position = some found := by
  unfold Call.decision
  rw [if_pos starts]
  exact ⟨_, List.getElem?_eq_getElem (by omega)⟩

/-! ### The invariant -/

/-- What is known of an outstanding flush: its batch is the head of the queue, and its call,
once it has returned, is in the history. -/
structure Waiting (state : AgentState E) (task : Task E) : Prop where
  first : task.first = state.committed
  shown : Shown state.runtime.queue task.prepared.batch
  decided : task.decisions.length = task.prepared.batch.payloads.length
  records : task.prepared.records = task.decisions.filterMap id
  returned : ∀ outcome, task.outcome = some outcome → task.call outcome ∈ state.calls

structure Delivering (state : AgentState E) : Prop where
  pristine : state.runtime.queue.Pristine
  exclusive : Exclusive state.runtime.control state.tasks
  bound : state.committed ≤ state.ingested.length
  held : List.Forall₂ (fun payload record => TelemetryRecord.encode record = .ok payload)
    state.runtime.queue.readable (state.ingested.drop state.committed)
  waiting : ∀ task ∈ state.tasks, Waiting state task
  settled : ∀ position < state.committed, ∃ call ∈ state.commits, ∃ found, call.decision position = some found
  commits : ∀ call ∈ state.commits, call ∈ state.calls ∧ call.Succeeded
  calls : ∀ call ∈ state.calls, call.Of state.ingested ∧ call.first ≤ state.committed
  past : ∀ call ∈ state.calls, call.Succeeded → call.first + call.decisions.length ≤ state.committed ∨
    ∃ task ∈ state.tasks, task.outcome = some call.outcome ∧ task.call call.outcome = call
  once : state.calls.Pairwise fun earlier later =>
    earlier.Succeeded → earlier.first + earlier.decisions.length ≤ later.first

/-- The payloads of the next batch are the records to come, in their order. -/
theorem Delivering.holds {state : AgentState E} (delivering : Delivering state) {batch : PendingBatch} {maxItems : Nat}
    (payloads : batch.payloads = state.runtime.queue.readable.take maxItems) :
    Holds batch.payloads ((state.ingested.drop state.committed).take maxItems) := by
  have encoded := List.forall₂_take maxItems delivering.held
  rw [← payloads] at encoded
  exact encoded.imp fun _ _ => decode_encode

/-- A step that touches neither the queue nor the history keeps the invariant; it may count
a reload in the outstanding flushes. -/
theorem Delivering.unaffected {state next : AgentState E} (delivering : Delivering state) (reloads : Nat)
    (exclusive : Exclusive next.runtime.control next.tasks)
    (queue : next.runtime.queue = state.runtime.queue)
    (same : next = { state with
      runtime := next.runtime
      tasks := state.tasks.map fun task => { task with reloads := task.reloads + reloads } }) :
    Delivering next := by
  rw [same] at exclusive ⊢
  refine ⟨by rw [queue]; exact delivering.pristine, exclusive, delivering.bound,
    by rw [queue]; exact delivering.held, ?_, delivering.settled, delivering.commits, delivering.calls, ?_,
    delivering.once⟩
  · intro task member
    obtain ⟨old, before, rfl⟩ := List.mem_map.mp member
    obtain ⟨first, shown, decided, records, returned⟩ := delivering.waiting old before
    exact ⟨first, by rw [queue]; exact shown, decided, records, returned⟩
  · intro call member succeeded
    rcases delivering.past call member succeeded with done | ⟨task, before, outcome, made⟩
    · exact Or.inl done
    · exact Or.inr ⟨_, List.mem_map_of_mem before, outcome, made⟩

/-- The method has returned an I/O error. -/
def raisesIo {α : Type} : EStateM.Result AgentHalt (AgentSession E) α → Bool
  | .error (.raised (.queue .io)) _ => true
  | _ => false

/-- No file-system error happens in the step; an append to a file that has reached its
largest size is one. -/
def AgentOperation.Undisturbed (state : AgentState E) : AgentOperation E → Prop
  | .ingest record plan => plan = [] ∧ raisesIo (Agent.ingest record ⟨state.runtime, []⟩) = false
  | .prepare _ _ _ plan => plan = []
  | .complete _ plan => plan = []
  | .flush _ _ _ plan => plan = []
  | _ => True

instance (state : AgentState E) (operation : AgentOperation E) : Decidable (operation.Undisturbed state) :=
  match operation with
  | .ingest _ _ => inferInstanceAs (Decidable (_ ∧ _))
  | .prepare _ _ _ plan => inferInstanceAs (Decidable (plan = []))
  | .complete _ plan => inferInstanceAs (Decidable (plan = []))
  | .flush _ _ _ plan => inferInstanceAs (Decidable (plan = []))
  | .reload _ _ => inferInstanceAs (Decidable True)
  | .pause => inferInstanceAs (Decidable True)
  | .resume => inferInstanceAs (Decidable True)
  | .deliver _ _ => inferInstanceAs (Decidable True)
  | .restart _ _ _ => inferInstanceAs (Decidable True)

namespace AgentState

variable {state next : AgentState E}

/-- The steps of a shared runtime without a file-system error. -/
def Calm (state : AgentState E) (operation : AgentOperation E) : Prop :=
  operation.shared = true ∧ operation.Undisturbed state

instance (state : AgentState E) (operation : AgentOperation E) : Decidable (Calm state operation) :=
  inferInstanceAs (Decidable (_ ∧ _))

theorem step_ingest_calm {record : TelemetryRecord}
    (allowed : AgentOperation.Undisturbed state (.ingest record []))
    (taken : state.step (.ingest record []) = some next) :
    (∃ payload, ∃ full : SegmentFile, Admissible state.runtime record payload ∧
      (state.runtime.queue.rotates payload → state.runtime.queue.activeSegmentId < u64Max) ∧
      full.bytes = (state.runtime.queue.rotated payload).activeFile.bytes ++ frame payload ∧
      next = { state with
        runtime := AgentRuntime.countIngest true { state.runtime with
          queue := (state.runtime.queue.rotated payload).appended payload full }
        ingested := state.ingested ++ [record] }) ∨
    next = { state with runtime := state.runtime.countIngest false } := by
  simp only [step] at taken
  rcases ingest_calm state.runtime record with
    ⟨payload, full, admissible, room, bytes, done⟩ | ⟨error, -, refused⟩ | ⟨later, failed⟩
  · rw [done] at taken
    cases taken
    exact Or.inl ⟨payload, full, admissible, room, bytes, rfl⟩
  · rw [refused] at taken
    cases taken
    exact Or.inr rfl
  · have raised := allowed.2
    rw [failed] at raised
    cases raised

theorem ingest_delivering (delivering : Delivering state) {record : TelemetryRecord}
    (exclusive : Exclusive next.runtime.control next.tasks)
    (allowed : AgentOperation.Undisturbed state (.ingest record []))
    (taken : state.step (.ingest record []) = some next) : Delivering next := by
  rcases step_ingest_calm allowed taken with ⟨payload, full, admissible, room, bytes, rfl⟩ | rfl
  · obtain ⟨pristine, readable⟩ := delivering.pristine.enqueued admissible.small room bytes
    have bound := delivering.bound
    refine ⟨pristine, exclusive, ?_, ?_, ?_, delivering.settled, delivering.commits, ?_, delivering.past,
      delivering.once⟩
    · simp only [List.length_append, List.length_singleton]
      omega
    · change List.Forall₂ _ ((state.runtime.queue.rotated payload).appended payload full).readable
        ((state.ingested ++ [record]).drop state.committed)
      rw [readable, List.drop_append_of_le_length bound]
      exact List.rel_append delivering.held (List.Forall₂.cons admissible.encoded List.Forall₂.nil)
    · intro task member
      obtain ⟨first, shown, decided, records, returned⟩ := delivering.waiting task member
      exact ⟨first, shown.enqueued delivering.pristine admissible.small room bytes, decided, records, returned⟩
    · intro call member
      obtain ⟨made, starts⟩ := delivering.calls call member
      exact ⟨made.append (starts.trans bound) record, starts⟩
  · exact delivering.unaffected 0 exclusive rfl (by simp)

theorem prepare_delivering (delivering : Delivering state) {maxItems : Nat} {force : Bool}
    {clock : Nat → Nat → Nat} (exclusive : Exclusive next.runtime.control next.tasks)
    (taken : state.step (.prepare maxItems force clock []) = some next) : Delivering next := by
  by_cases paused : (state.runtime.exportsPaused && !force) = true
  · have idle : prepareSharedFlush maxItems force clock ⟨state.runtime, []⟩ = _ :=
      prepareSharedFlush_paused clock paused
    simp only [step, idle, Option.some.injEq] at taken
    subst taken
    exact delivering
  have running : (state.runtime.exportsPaused && !force) = false := by simpa using paused
  by_cases busy : state.runtime.flushInProgress = true
  · have waits : prepareSharedFlush maxItems force clock ⟨state.runtime, []⟩ = _ :=
      prepareSharedFlush_busy clock running busy
    simp only [step, waits, Option.some.injEq] at taken
    subst taken
    exact delivering
  have free : state.runtime.flushInProgress = false := by simpa using busy
  have idle : state.tasks = [] := by
    by_contra some
    exact busy (delivering.exclusive.flag.mpr some)
  have fits : maxItems ≤ maxBatchItems := by
    by_contra large
    have panics : prepareSharedFlush maxItems force clock ⟨state.runtime, []⟩ = _ :=
      prepareSharedFlush_panics clock running free (Nat.not_le.mp large)
    simp [step, panics] at taken
  obtain ⟨batch, read, shown, payloads⟩ := delivering.pristine.reads fits
  by_cases none : batch.payloads = []
  · have nothing := prepareSharedFlush_none clock running free read none
    simp only [step, nothing, Option.some.injEq] at taken
    subst taken
    obtain ⟨pristine, split⟩ := shown.committed delivering.pristine
    refine ⟨pristine, exclusive, delivering.bound, ?_, ?_, delivering.settled, delivering.commits,
      delivering.calls, delivering.past, delivering.once⟩
    · rw [none, List.nil_append] at split
      change List.Forall₂ _ (state.runtime.queue.afterCommit batch).readable _
      rw [split]
      exact delivering.held
    · intro task member
      simp [idle] at member
  · have holds := delivering.holds payloads
    have prepared := prepareSharedFlush_holds clock running free read none holds
    simp only [step, prepared, Option.some.injEq] at taken
    subst taken
    refine ⟨delivering.pristine, exclusive, delivering.bound, delivering.held, ?_, delivering.settled,
      delivering.commits, delivering.calls, ?_, delivering.once⟩
    · intro task member
      simp only [idle, List.nil_append, List.mem_singleton] at member
      subst member
      have decoded : decodeAll batch.payloads = (state.ingested.drop state.committed).take maxItems :=
        decodeAll_eq holds
      refine ⟨rfl, shown, ?_, ?_, fun outcome returned => (by cases returned)⟩
      · simp only [AgentRuntime.work, decoded, ProcessorChain.length_pass]
        exact holds.length_eq.symm
      · simp only [AgentRuntime.work, decoded]
    · intro call member succeeded
      rcases delivering.past call member succeeded with done | ⟨task, before, -⟩
      · exact Or.inl done
      · simp [idle] at before

theorem deliver_delivering (delivering : Delivering state) {index : Nat} {respond : Responses}
    (exclusive : Exclusive next.runtime.control next.tasks)
    (taken : state.step (.deliver index respond) = some next) : Delivering next := by
  obtain ⟨task, outcome, found, none, -, rfl⟩ := step_deliver taken
  obtain ⟨rfl, single⟩ := delivering.exclusive.only found
  have waiting := delivering.waiting task (by simp [single])
  have bound := delivering.bound
  have made : (task.call outcome).Of state.ingested := by
    refine ⟨?_, waiting.decided, waiting.records⟩
    have head : task.prepared.batch.payloads =
        state.runtime.queue.readable.take task.prepared.batch.payloads.length := by
      rw [← waiting.shown.split, List.take_left]
    have encoded := List.forall₂_take task.prepared.batch.payloads.length delivering.held
    rw [← head] at encoded
    change List.Forall₂ _ task.prepared.batch.payloads
      ((state.ingested.drop task.first).take task.prepared.batch.payloads.length)
    rw [waiting.first]
    exact encoded
  have old : ∀ call ∈ state.calls, call.Succeeded →
      call.first + call.decisions.length ≤ state.committed := by
    intro call member succeeded
    rcases delivering.past call member succeeded with done | ⟨other, before, returned, -⟩
    · exact done
    · rw [single, List.mem_singleton] at before
      rw [before, none] at returned
      cases returned
  refine ⟨delivering.pristine, exclusive, bound, delivering.held, ?_, delivering.settled, ?_, ?_, ?_, ?_⟩
  · intro other member
    simp only [single, List.set_cons_zero, List.mem_singleton] at member
    subst member
    refine ⟨waiting.first, waiting.shown, waiting.decided, waiting.records, ?_⟩
    intro result returned
    cases returned
    exact List.mem_append_right _ (by simp [Task.call])
  · intro call member
    exact ⟨List.mem_append_left _ (delivering.commits call member).1, (delivering.commits call member).2⟩
  · intro call member
    rcases List.mem_append.mp member with before | new
    · exact delivering.calls call before
    · rw [List.mem_singleton.mp new]
      exact ⟨made, waiting.first.le⟩
  · intro call member succeeded
    rcases List.mem_append.mp member with before | new
    · exact Or.inl (old call before succeeded)
    · rw [List.mem_singleton.mp new]
      refine Or.inr ⟨{ task with outcome := some outcome }, ?_, rfl, rfl⟩
      simp [single]
  · refine List.pairwise_append.mpr ⟨delivering.once, List.pairwise_singleton _ _, ?_⟩
    intro earlier before later new succeeded
    rw [List.mem_singleton.mp new]
    change earlier.first + earlier.decisions.length ≤ task.first
    rw [waiting.first]
    exact old earlier before succeeded

theorem complete_delivering (delivering : Delivering state) {index : Nat}
    (exclusive : Exclusive next.runtime.control next.tasks)
    (taken : state.step (.complete index []) = some next) : Delivering next := by
  simp only [step] at taken
  cases found : state.tasks[index]? with
  | none => simp [found] at taken
  | some task =>
    obtain ⟨rfl, single⟩ := delivering.exclusive.only found
    have waiting := delivering.waiting task (by simp [single])
    cases returned : task.outcome with
    | none => simp [found, returned] at taken
    | some outcome =>
      simp only [found, returned] at taken
      have none : state.tasks.eraseIdx 0 = [] := by rw [single]; rfl
      cases outcome with
      | error error =>
        simp only [completeFlush_error, Option.some.injEq] at taken
        subst taken
        refine ⟨delivering.pristine, exclusive, delivering.bound, delivering.held, ?_, delivering.settled,
          delivering.commits, delivering.calls, ?_, delivering.once⟩
        · intro other member
          simp [none] at member
        · intro call member succeeded
          rcases delivering.past call member succeeded with done | ⟨other, before, result, -⟩
          · exact Or.inl done
          · rw [single, List.mem_singleton] at before
            obtain ⟨report, ok⟩ := succeeded
            rw [before, returned, ok] at result
            cases result
      | ok exported =>
        simp only [completeFlush_ok, Option.some.injEq] at taken
        subst taken
        obtain ⟨pristine, split⟩ := waiting.shown.committed delivering.pristine
        have size := congrArg List.length split
        have total := delivering.held.length_eq
        have bound := delivering.bound
        have decided : (task.call (.ok exported)).decisions.length = task.prepared.batch.payloads.length :=
          waiting.decided
        have first : (task.call (.ok exported)).first = state.committed := waiting.first
        rw [List.length_append] at size
        rw [List.length_drop] at total
        refine ⟨pristine, exclusive, ?_, ?_, ?_, ?_, ?_, ?_, ?_, delivering.once⟩
        · simp only
          omega
        · change List.Forall₂ _ (state.runtime.queue.afterCommit task.prepared.batch).readable
            (state.ingested.drop (state.committed + task.prepared.batch.payloads.length))
          have rest := List.forall₂_drop task.prepared.batch.payloads.length delivering.held
          rw [← split, List.drop_left, List.drop_drop] at rest
          exact rest
        · intro other member
          simp [none] at member
        · intro position below
          by_cases before : position < state.committed
          · obtain ⟨call, member, decision⟩ := delivering.settled position before
            exact ⟨call, List.mem_append_left _ member, decision⟩
          · refine ⟨task.call (.ok exported), List.mem_append_right _ (by simp), ?_⟩
            simp only at below
            exact Call.decision_of_bounds (by omega) (by omega)
        · intro call member
          rcases List.mem_append.mp member with before | new
          · exact delivering.commits call before
          · rw [List.mem_singleton.mp new]
            exact ⟨waiting.returned _ returned, exported, rfl⟩
        · intro call member
          obtain ⟨made, starts⟩ := delivering.calls call member
          exact ⟨made, Nat.le_add_right_of_le starts⟩
        · intro call member succeeded
          refine Or.inl ?_
          rcases delivering.past call member succeeded with done | ⟨other, before, result, made⟩
          · exact Nat.le_add_right_of_le done
          · rw [single, List.mem_singleton] at before
            rw [before, returned] at result
            have same : call.outcome = .ok exported := (Option.some.inj result).symm
            rw [before, same] at made
            rw [← made]
            simp only
            omega

theorem step_delivering (delivering : Delivering state) {operation : AgentOperation E}
    (allowed : Calm state operation) (taken : state.step operation = some next) : Delivering next := by
  obtain ⟨shared, undisturbed⟩ := allowed
  have exclusive := step_exclusive delivering.exclusive shared taken
  cases operation with
  | ingest record plan =>
    obtain rfl : plan = [] := undisturbed.1
    exact ingest_delivering delivering exclusive undisturbed taken
  | reload config build =>
    rcases step_reload taken with ⟨exporters, -, -, rfl⟩ | ⟨error, session, -, rfl⟩
    · exact delivering.unaffected 1 exclusive rfl rfl
    · exact delivering.unaffected 0 exclusive rfl (by simp)
  | pause =>
    cases taken
    exact delivering.unaffected 0 exclusive rfl (by simp)
  | resume =>
    cases taken
    exact delivering.unaffected 0 exclusive rfl (by simp)
  | prepare maxItems force clock plan =>
    obtain rfl : plan = [] := undisturbed
    exact prepare_delivering delivering exclusive taken
  | deliver index respond => exact deliver_delivering delivering exclusive taken
  | complete index plan =>
    obtain rfl : plan = [] := undisturbed
    exact complete_delivering delivering exclusive taken
  | flush maxItems clock respond plan => cases shared
  | restart config options build => cases shared

/-- The state in which a runtime is opened on a queue that already holds records. -/
def resume (runtime : AgentRuntime E) (records : List TelemetryRecord) : AgentState E :=
  { start runtime with ingested := records }

theorem resume_delivering {config : PipelineConfig} {dir : Directory} {options : DiskQueueOptions}
    {build : ExporterConfig → Except ExporterError E} {runtime : AgentRuntime E} {records : List TelemetryRecord}
    (opened : AgentRuntime.openDir config dir options build = .ok runtime)
    (pristine : runtime.queue.Pristine)
    (held : List.Forall₂ (fun payload record => TelemetryRecord.encode record = .ok payload)
      runtime.queue.readable records) : Delivering (resume runtime records) := by
  refine ⟨pristine, start_exclusive opened, Nat.zero_le _, held, ?_, ?_, ?_, ?_, ?_, List.Pairwise.nil⟩
  · intro task member
    cases member
  · intro position below
    exact absurd below (Nat.not_lt_zero _)
  · intro call member
    cases member
  · intro call member
    cases member
  · intro call member
    cases member

/-- A runtime is opened on a directory that earlier processes have left without damage, with
the given records still to be read. Then, in every state it reaches without a file-system
error: every ingested record is readable from the cursor on, or was dropped by the
processors in a flush whose batch is committed, or was in the record list of an
`export_records` call that returned `Ok` and whose batch was committed behind it; and a
record is in the lists of two calls only if the earlier one returned an error. -/
theorem no_loss {config : PipelineConfig} {dir : Directory} {options : DiskQueueOptions}
    {build : ExporterConfig → Except ExporterError E} {runtime : AgentRuntime E} {path : String}
    {earlier : DiskQueueOptions} {run : RunState} {records : List TelemetryRecord}
    (opened : AgentRuntime.openDir config dir options build = .ok runtime)
    (left : Reaches RunState.step (fun _ operation => operation.healthy) (RunState.start path earlier) run)
    (same : runtime.queue = run.queue)
    (held : List.Forall₂ (fun payload record => TelemetryRecord.encode record = .ok payload)
      runtime.queue.readable records)
    (reached : Reaches step Calm (resume runtime records) state) :
    (∀ position record, state.ingested[position]? = some record →
      (∃ payload, record.encode = .ok payload ∧ state.committed ≤ position ∧
        state.runtime.queue.readable[position - state.committed]? = some payload) ∨
      (∃ call ∈ state.commits, call.Drops position) ∨
      (∃ call ∈ state.commits, call ∈ state.calls ∧ call.Succeeded ∧ call.Hands position)) ∧
    (state.calls.Pairwise fun earlier later => ∀ position, earlier.Hands position → later.Hands position →
      ∃ error, earlier.outcome = .error error) ∧
    (∀ call ∈ state.calls, call.Of state.ingested) := by
  have follows : run.Follows := left.invariant (RunState.start_follows path earlier)
    (fun kept allowed taken => RunState.step_follows kept allowed taken)
  have pristine : runtime.queue.Pristine := by
    rw [same]
    exact ⟨follows.healthy.queue, follows.healthy.intact⟩
  have delivering : Delivering state := reached.invariant (resume_delivering opened pristine held)
    (fun kept allowed taken => step_delivering kept allowed taken)
  refine ⟨?_, ?_, fun call member => (delivering.calls call member).1⟩
  · intro position record found
    by_cases settled : position < state.committed
    · obtain ⟨call, member, decision, decided⟩ := delivering.settled position settled
      obtain ⟨inside, succeeded⟩ := delivering.commits call member
      cases decision with
      | none => exact Or.inr (Or.inl ⟨call, member, decided⟩)
      | some processed =>
        exact Or.inr (Or.inr ⟨call, member, inside, succeeded,
          (delivering.calls call inside).1.hands_of_decision decided⟩)
    · have ahead : (state.ingested.drop state.committed)[position - state.committed]? = some record := by
        rw [List.getElem?_drop, ← found]
        congr 1
        omega
      obtain ⟨bound, there⟩ := List.getElem?_eq_some_iff.mp ahead
      have size := delivering.held.length_eq
      have encoded := delivering.held.get (i := position - state.committed) (by omega) bound
      refine Or.inl ⟨_, ?_, not_lt.mp settled, List.getElem?_eq_getElem (by omega)⟩
      rw [← there]
      exact encoded
  · refine delivering.once.imp ?_
    rintro earlier later apart position ⟨first, -, handed⟩ ⟨second, -, again⟩
    cases result : earlier.outcome with
    | error error => exact ⟨error, rfl⟩
    | ok report =>
      have before := apart ⟨report, result⟩
      have inside := (Call.decision_bounds handed).2
      have behind := (Call.decision_bounds again).1
      omega

/-- Two records are ingested, the first is exported, fails, and is exported again together
with the second; a third one arrives between export and commit. -/
def retriedFlush : List (AgentOperation Unit) :=
  [.ingest ⟨"tenant", .log, 0, [], [1]⟩ [], .prepare 1 false (fun _ _ => 0) [],
    .ingest ⟨"tenant", .trace, 0, [], [2]⟩ [], .deliver 0 (fun _ _ _ => .timedOut), .complete 0 [],
    .prepare 10 false (fun _ _ => 0) [], .deliver 0 (fun _ _ _ => .delivered ⟨1, 1⟩),
    .ingest ⟨"tenant", .metric, 0, [], [3]⟩ [], .complete 0 []]

theorem no_loss_retried :
    ∃ state, Library.run (fun state operation => if Calm state operation then step state operation else none)
        (resume defaultRuntime []) retriedFlush = some state ∧ state.ingested.length = 3 ∧
      ∀ position record, state.ingested[position]? = some record →
        (∃ payload, record.encode = .ok payload ∧ state.committed ≤ position ∧
          state.runtime.queue.readable[position - state.committed]? = some payload) ∨
        (∃ call ∈ state.commits, call.Drops position) ∨
        (∃ call ∈ state.commits, call ∈ state.calls ∧ call.Succeeded ∧ call.Hands position) := by
  have nothing : Reaches RunState.step (fun _ operation => operation.healthy)
      (RunState.start "queue" ⟨1000, false⟩) (RunState.start "queue" ⟨1000, false⟩) := .here
  have ran : (Library.run (fun state operation => if Calm state operation then step state operation else none)
      (resume defaultRuntime []) retriedFlush).map (fun state => state.ingested.length) = some 3 := by
    decide +kernel
  obtain ⟨state, reached, size⟩ := Option.map_eq_some_iff.mp ran
  exact ⟨state, reached, size, (no_loss defaultRuntime_opened
    nothing rfl List.Forall₂.nil (.of_checked_run reached)).1⟩

end AgentState

end TelemetryFabric.Agent
