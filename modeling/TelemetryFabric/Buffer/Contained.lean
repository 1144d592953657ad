import TelemetryFabric.Buffer.Run

/-!
Damage stays in its segment. In runs that commit every batch they read, the records of the
segments nobody altered are handed out once, in the order they were stored, whatever
happens to the bytes of the others; and nothing but an altered segment is renamed aside.
-/

namespace TelemetryFabric.Buffer
open Library

/-! ### Altered files -/

/-- Rewriting a segment changes no record outside it. -/
theorem unaltered_taggedOf {altered : List Nat} {id : Nat} (member : id ∈ altered)
    (file : SegmentFile) (offset : Nat) (listing : List (Nat × SegmentFile)) :
    unaltered altered (taggedOf offset
      (listing.map (fun entry => if entry.1 = id then (id, file) else entry))) =
      unaltered altered (taggedOf offset listing) := by
  induction listing generalizing offset with
  | nil => rfl
  | cons entry later ih =>
    obtain ⟨other, content⟩ := entry
    have rest := ih 0
    by_cases here : other = id
    · -- the records of the segment itself go on both sides
      subst here
      simpa [taggedOf, unaltered, List.filter_map, Function.comp_def, member] using rest
    · rw [List.map_cons, if_neg here, taggedOf, taggedOf, unaltered, unaltered, List.filter_append,
        List.filter_append]
      exact congrArg _ rest

theorem unaltered_append (altered : List Nat) (first second : List (Nat × Bytes)) :
    unaltered altered (first ++ second) = unaltered altered first ++ unaltered altered second :=
  List.filter_append ..

theorem unaltered_cons (altered : List Nat) (id : Nat) (records : List (Nat × Bytes)) :
    unaltered (id :: altered) (unaltered altered records) = unaltered (id :: altered) records := by
  unfold unaltered
  rw [List.filter_filter]
  apply List.filter_congr
  intro record _
  simp

/-- What a larger list of altered segments leaves of two lists that agree. -/
theorem unaltered_cons_congr {altered : List Nat} (id : Nat) {first second : List (Nat × Bytes)}
    (same : unaltered altered first = unaltered altered second) :
    unaltered (id :: altered) first = unaltered (id :: altered) second := by
  rw [← unaltered_cons altered, same, unaltered_cons]

/-- A queue with other bytes in one of its segments. -/
def DiskQueue.damaged (queue : DiskQueue) (id : Nat) (file : SegmentFile) : DiskQueue :=
  { queue with dir := { queue.dir with segments := queue.dir.segments.insert id file } }

theorem unaltered_aheadAt_damaged {queue : DiskQueue} {cursor : Cursor} {altered : List Nat} {id : Nat}
    {old file : SegmentFile} (sound : queue.Sound) (bound : cursor.segmentId ≤ queue.activeSegmentId)
    (found : queue.dir.segments.find? id = some old) (member : id ∈ altered) :
    unaltered altered ((queue.damaged id file).aheadAt cursor) =
      unaltered altered (queue.aheadAt cursor) := by
  have damaged : (queue.damaged id file).Sound := sound.rewritten found rfl rfl rfl
  have start : (queue.damaged id file).startOffset cursor = queue.startOffset cursor := by
    simp only [DiskQueue.startOffset, DiskQueue.damaged, OrderedMap.find?_insert]
    split_ifs with here <;> simp_all
  have listing : (queue.damaged id file).dir.segments.since cursor.segmentId =
      (queue.dir.segments.since cursor.segmentId).map
        (fun entry => if entry.1 = id then (id, file) else entry) := by
    simp only [OrderedMap.since, DiskQueue.damaged, OrderedMap.insert_entries]
    rw [OrderedMap.place_of_mem _ _ old _ queue.dir.segments.ordered
      ((queue.dir.segments.find?_eq_some_iff _ _).mp found), List.filter_map]
    congr 1
    apply List.filter_congr
    intro entry _
    by_cases here : entry.1 = id <;> simp [here]
  rw [aheadAt_eq_taggedOf damaged.topped bound, aheadAt_eq_taggedOf sound.topped bound, start, listing,
    unaltered_taggedOf member]

theorem DiskQueue.Intact.damaged {queue : DiskQueue} {altered : List Nat} {cursor : Cursor}
    (intact : queue.Intact altered cursor) (id : Nat) (file : SegmentFile) :
    (queue.damaged id file).Intact (id :: altered) cursor := by
  intro other content found bound healthy
  obtain ⟨different, healthy⟩ := not_or.mp (fun inside => healthy (List.mem_cons.mpr inside))
  apply intact other content ?_ bound healthy
  simp only [DiskQueue.damaged] at found
  rwa [OrderedMap.find?_insert, if_neg different] at found

/-! ### Reading -/

/-- Only altered segments have been renamed aside. -/
def DiskQueue.SparesHealthy (queue : DiskQueue) (altered : List Nat) : Prop :=
  ∀ file ∈ queue.dir.corrupt, file.id ∈ altered

theorem setAside_corrupt {queue : DiskQueue} {id suffix : Nat} {file : SegmentFile} (reason : String)
    (found : queue.dir.segments.find? id = some file) :
    (queue.setAside id suffix file reason).dir.corrupt =
      queue.dir.corrupt ++ [⟨id, suffix, file.bytes⟩] := by
  simp [DiskQueue.setAside, Directory.renameCorrupt, Directory.writeReason, found]

theorem DiskQueue.SparesHealthy.setAside {queue later : DiskQueue} {altered : List Nat} {id suffix : Nat}
    {file : SegmentFile} (spares : queue.SparesHealthy altered) (member : id ∈ altered)
    (corrupt : later.dir.corrupt = queue.dir.corrupt ++ [⟨id, suffix, file.bytes⟩]) :
    later.SparesHealthy altered := by
  intro other inside
  rw [corrupt] at inside
  rcases List.mem_append.mp inside with before | new
  · exact spares other before
  · rw [List.mem_singleton.mp new]
    exact member

theorem StepsTo.sparesHealthy {queue later : DiskQueue} {altered : List Nat} {cursor : Cursor}
    {step : ReadStep} (intact : queue.Intact altered cursor) (spares : queue.SparesHealthy altered)
    (steps : StepsTo queue cursor step later) : later.SparesHealthy altered := by
  cases steps with
  | missing => exact spares
  | record => exact spares
  | finished => exact spares
  | leave => exact spares
  | quarantine file suffix reason found parsed free older =>
    exact spares.setAside (intact.mem_of_refused found parsed) (setAside_corrupt reason found)
  | replace file suffix reason found parsed free active room =>
    exact spares.setAside (intact.mem_of_refused found parsed) (setAside_corrupt reason found)

theorem contained_invariant (altered : List Nat) (maxItems : Nat) :
    LoopInvariant maxItems (fun current cursor _ _ => (current.Shaped ∧ current.Within cursor) ∧
      current.Intact altered cursor ∧ current.SparesHealthy altered) where
  record := by
    rintro queue cursor commit batch payload next later ⟨⟨shaped, within⟩, intact, spares⟩ - steps
    obtain ⟨laterShaped, -, laterWithin⟩ := shaped.stepsTo within steps
    exact ⟨⟨laterShaped, laterWithin next rfl⟩, intact.of_record steps, steps.sparesHealthy intact spares⟩
  move := by
    rintro queue cursor commit batch next later ⟨⟨shaped, within⟩, intact, spares⟩ - steps
    obtain ⟨laterShaped, -, laterWithin⟩ := shaped.stepsTo within steps
    exact ⟨⟨laterShaped, laterWithin next rfl⟩, intact.of_move steps, steps.sparesHealthy intact spares⟩
  empty := by
    rintro queue cursor commit batch later ⟨⟨shaped, within⟩, intact, spares⟩ - steps
    obtain ⟨rfl, -⟩ := shaped.at_end within steps
    exact ⟨⟨shaped, within⟩, intact, spares⟩

/-- A read leaves the undamaged segments behind its cursor undamaged. -/
theorem readBatch_contained {queue later : DiskQueue} {altered : List Nat} {maxItems : Nat}
    {batch : PendingBatch} (shaped : queue.Shaped) (intact : queue.Intact altered queue.cursor)
    (spares : queue.SparesHealthy altered)
    (read : readBatch maxItems ⟨queue, []⟩ = .ok batch ⟨later, []⟩) :
    later.Intact altered batch.nextCursor ∧ later.SparesHealthy altered := by
  rcases readBatch_rule (contained_invariant altered maxItems) ⟨⟨shaped, shaped.within⟩, intact, spares⟩
      (fits_of_readBatch read) with
    ⟨other, last, done, ⟨-, kept⟩, -⟩ | ⟨message, last, failed, -⟩
  · rw [read] at done
    cases done
    exact kept
  · rw [read] at failed
    cases failed

/-! ### Appending and committing -/

theorem corrupt_rotated (queue : DiskQueue) (payload : Bytes) :
    (queue.rotated payload).dir.corrupt = queue.dir.corrupt := by
  unfold DiskQueue.rotated
  split_ifs <;> rfl

theorem corrupt_afterCommit (queue : DiskQueue) (batch : PendingBatch) :
    (queue.afterCommit batch).dir.corrupt = queue.dir.corrupt := by
  unfold DiskQueue.afterCommit
  split_ifs <;> rfl

theorem DiskQueue.Intact.afterCommit {queue : DiskQueue} {altered : List Nat}
    {cursor : Cursor} (intact : queue.Intact altered cursor) (batch : PendingBatch) :
    (queue.afterCommit batch).Intact altered cursor := by
  unfold DiskQueue.afterCommit
  split_ifs
  · exact intact.committed batch.nextCursor
  · exact intact

/-! ### Runs -/

/-- A run together with the records its reads have handed out, each with the segment it was
read from. -/
structure TracedState where
  state : RunState
  handed : List (Nat × Bytes)

namespace TracedState

def step (traced : TracedState) (operation : Operation) : Option TracedState :=
  (traced.state.step operation).map fun next =>
    match operation with
    | .readBatch maxItems => ⟨next, traced.handed ++ traced.state.queue.ahead.take maxItems⟩
    | _ => ⟨next, traced.handed⟩

def start (path : String) (options : DiskQueueOptions) : TracedState := ⟨.start path options, []⟩

/-- Every batch that is read is committed before the next one is read or the directory is
opened again. -/
def Committing (traced : TracedState) : Operation → Prop
  | .enqueue _ | .commitBatch | .damage _ _ => True
  | .readBatch _ | .reopen _ => traced.state.pending = none
  | .tear _ _ _ | .drain _ _ | .drainBatch _ _ => False

instance (traced : TracedState) (operation : Operation) : Decidable (traced.Committing operation) :=
  match operation with
  | .enqueue _ | .commitBatch | .damage _ _ => inferInstanceAs (Decidable True)
  | .readBatch _ | .reopen _ => inferInstanceAs (Decidable (_ = _))
  | .tear _ _ _ | .drain _ _ | .drainBatch _ _ => inferInstanceAs (Decidable False)

end TracedState

namespace TracedState

/-- What is handed out and what is still ahead are, outside the altered segments, the
records stored. -/
structure Contained (traced : TracedState) : Prop extends traced.state.Sound where
  handed : traced.handed.map Prod.snd = traced.state.delivered ++ traced.state.outstanding
  records : unaltered traced.state.altered
    (traced.handed ++ traced.state.queue.aheadAt traced.state.front) =
      unaltered traced.state.altered traced.state.stored
  intact : traced.state.queue.Intact traced.state.altered traced.state.front
  spares : traced.state.queue.SparesHealthy traced.state.altered

variable {traced next : TracedState}

theorem Contained.front_le (contained : traced.Contained) :
    traced.state.front.segmentId ≤ traced.state.queue.activeSegmentId := by
  unfold RunState.front
  cases pending : traced.state.pending with
  | none => exact contained.queue.within.2.1
  | some outstanding => exact (contained.pending outstanding pending).1.2.1

theorem start_contained (path : String) (options : DiskQueueOptions) :
    (start path options).Contained := by
  refine ⟨RunState.start_sound path options, rfl, rfl, ?_, ?_⟩
  · intro id file found bound healthy
    have only : (id, file) ∈ [(1, SegmentFile.empty)] := (OrderedMap.find?_eq_some_iff _ _ _).mp found
    cases List.mem_singleton.mp only
    exact ⟨Nat.zero_le _, rfl⟩
  · intro file member
    cases member

theorem Contained.enqueued (contained : traced.Contained) {payload : Bytes} {after : RunState}
    (stepped : traced.state.step (.enqueue payload) = some after) :
    Contained ⟨after, traced.handed⟩ := by
  have sound := RunState.step_sound contained.toSound stepped
  rcases RunState.step_enqueue stepped with ⟨full, small, room, bytes, rfl⟩ | rfl
  · have bound := contained.front_le
    have topped := contained.queue.topped
    have front : RunState.front { traced.state with
        queue := (traced.state.queue.rotated payload).appended payload full
        stored := traced.state.stored ++ [((traced.state.queue.rotated payload).activeSegmentId, payload)] } =
          traced.state.front := RunState.front_congr (cursor_rotated traced.state.queue payload) rfl
    have added := contained.intact.unaltered_enqueued topped bound small room bytes
    refine ⟨sound, contained.handed, ?_, ?_, ?_⟩
    · rw [front, unaltered_append, added, ← unaltered_append, ← List.append_assoc, unaltered_append,
        contained.records, ← unaltered_append]
    · rw [front]
      exact (contained.intact.rotated payload bound).appended (topped.rotated room)
        (bound.trans (activeSegmentId_rotated _ _)) bytes small
    · intro file member
      exact contained.spares file (corrupt_rotated traced.state.queue payload ▸ member)
  · exact contained

theorem Contained.read (contained : traced.Contained) {maxItems : Nat} {after : RunState}
    (none : traced.state.pending = none)
    (stepped : traced.state.step (.readBatch maxItems) = some after) :
    Contained ⟨after, traced.handed ++ traced.state.queue.ahead.take maxItems⟩ := by
  have sound := RunState.step_sound contained.toSound stepped
  obtain ⟨batch, later, done, took, rfl⟩ := RunState.step_readBatch contained.queue.toShaped stepped
  have front : traced.state.front = traced.state.queue.cursor := by rw [RunState.front, none]
  have empty : traced.state.outstanding = [] := by rw [RunState.outstanding, none]
  have intact := contained.intact
  rw [front] at intact
  obtain ⟨laterIntact, spares⟩ := readBatch_contained contained.queue.toShaped intact contained.spares done
  refine ⟨sound, ?_, ?_, laterIntact, spares⟩
  · rw [List.map_append, contained.handed, empty, List.append_nil, ← took.taken]
    rfl
  · have records := contained.records
    rw [front] at records
    change unaltered _ (_ ++ later.aheadAt batch.nextCursor) = _
    rw [took.left, List.append_assoc, List.take_append_drop]
    exact records

theorem Contained.committed (contained : traced.Contained) {after : RunState}
    (stepped : traced.state.step .commitBatch = some after) : Contained ⟨after, traced.handed⟩ := by
  have sound := RunState.step_sound contained.toSound stepped
  obtain ⟨outstanding, pending, rfl⟩ := RunState.step_commitBatch stepped
  obtain ⟨within, still⟩ := contained.pending outstanding pending
  have front : traced.state.front = outstanding.batch.nextCursor := by rw [RunState.front, pending]
  have payloads : traced.state.outstanding = outstanding.batch.payloads := by
    rw [RunState.outstanding, pending]
  have records := contained.records
  have intact := contained.intact
  rw [front] at records intact
  refine ⟨sound, ?_, ?_, ?_, ?_⟩
  · rw [contained.handed, payloads]
    simp [RunState.outstanding]
  · change unaltered _ (_ ++ (traced.state.queue.afterCommit outstanding.batch).ahead) = _
    rw [ahead_afterCommit still]
    exact records
  · change DiskQueue.Intact (traced.state.queue.afterCommit outstanding.batch) _
      (traced.state.queue.afterCommit outstanding.batch).cursor
    rw [(activeScan_afterCommit within still).2.2]
    exact intact.afterCommit outstanding.batch
  · intro file member
    exact contained.spares file (corrupt_afterCommit traced.state.queue outstanding.batch ▸ member)

theorem Contained.reopened (contained : traced.Contained) (none : traced.state.pending = none)
    (options : DiskQueueOptions) :
    Contained ⟨{ traced.state with
      queue := .openDir traced.state.queue.dir options, pending := Option.none }, traced.handed⟩ := by
  have sound : RunState.Sound { traced.state with
      queue := .openDir traced.state.queue.dir options, pending := Option.none } :=
    .settled (contained.queue.reopened options) rfl
  have same := contained.queue.openDir_eq options
  have front : traced.state.front = traced.state.queue.cursor := by rw [RunState.front, none]
  have records := contained.records
  have intact := contained.intact
  have handed := contained.handed
  rw [front] at records intact
  rw [RunState.outstanding, none] at handed
  refine ⟨sound, handed, ?_, ?_, ?_⟩
  · change unaltered _ (_ ++ (DiskQueue.openDir traced.state.queue.dir options).ahead) = _
    rw [same]
    exact records
  · change DiskQueue.Intact (DiskQueue.openDir traced.state.queue.dir options) _ _
    rw [RunState.front, same]
    exact intact
  · change DiskQueue.SparesHealthy (DiskQueue.openDir traced.state.queue.dir options) _
    rw [same]
    exact contained.spares

theorem Contained.damaged (contained : traced.Contained) {id : Nat} {file : SegmentFile}
    {after : RunState} (stepped : traced.state.step (.damage id file) = some after) :
    Contained ⟨after, traced.handed⟩ := by
  have sound := RunState.step_sound contained.toSound stepped
  simp only [RunState.step] at stepped
  cases found : traced.state.queue.dir.segments.find? id with
  | none =>
    rw [found] at stepped
    cases stepped
  | some old =>
    rw [found] at stepped
    cases stepped
    refine ⟨sound, contained.handed, ?_, contained.intact.damaged id file, ?_⟩
    · have ahead : unaltered (id :: traced.state.altered)
          ((traced.state.queue.damaged id file).aheadAt traced.state.front) = _ :=
        unaltered_aheadAt_damaged contained.queue contained.front_le found (by simp)
      change unaltered _ (_ ++ (traced.state.queue.damaged id file).aheadAt traced.state.front) = _
      rw [unaltered_append, ahead, ← unaltered_append]
      exact unaltered_cons_congr id contained.records
    · intro other member
      exact List.mem_cons_of_mem _ (contained.spares other member)

theorem step_contained (contained : traced.Contained) {operation : Operation}
    (committing : traced.Committing operation) (taken : traced.step operation = some next) :
    next.Contained := by
  obtain ⟨after, stepped, rfl⟩ := Option.map_eq_some_iff.mp taken
  cases operation with
  | enqueue payload => exact contained.enqueued stepped
  | readBatch maxItems => exact contained.read committing stepped
  | commitBatch => exact contained.committed stepped
  | reopen options =>
    cases stepped
    exact contained.reopened committing options
  | damage id file => exact contained.damaged stepped
  | tear payload cut restart => exact absurd committing id
  | drain maxItems accepts => exact absurd committing id
  | drainBatch maxItems accepts => exact absurd committing id

/-- However the bytes of other segments are altered, in every run that commits the batches
it reads, the records stored in unaltered segments are handed out once and in order, and
what has not been handed out is ahead and is returned by the cycles to come. No unaltered
segment is renamed aside. -/
theorem damage_contained {path : String} {options : DiskQueueOptions} {traced : TracedState}
    (reached : Reaches step Committing (start path options) traced) :
    traced.handed.map Prod.snd = traced.state.delivered ++ traced.state.outstanding ∧
    unaltered traced.state.altered (traced.handed ++ traced.state.queue.aheadAt traced.state.front) =
      unaltered traced.state.altered traced.state.stored ∧
    (∀ file ∈ traced.state.queue.dir.corrupt, file.id ∈ traced.state.altered) ∧
    (traced.state.pending = none → traced.state.queue.Exhausted ∨
      ∀ sizes, (∀ size ∈ sizes, size ≤ maxBatchItems) → ∃ later, cycles sizes ⟨traced.state.queue, []⟩ =
        .ok (traced.state.queue.readable.take sizes.sum) ⟨later, []⟩) := by
  have contained : traced.Contained := reached.invariant (start_contained path options)
    (fun before committing taken => step_contained before committing taken)
  refine ⟨contained.handed, contained.records, contained.spares, fun _ => ?_⟩
  by_cases full : traced.state.queue.Exhausted
  · exact Or.inl full
  · refine Or.inr fun sizes fit => ?_
    obtain ⟨later, done, -⟩ := cycles_take contained.queue.toShaped full fit
    exact ⟨later, done⟩

/-- Three segments of one record each; the bytes of the second become a wrong checksum. -/
def damagedOperations : List Operation :=
  [.enqueue [1], .enqueue [2], .enqueue [3], .damage 2 ⟨List.replicate 9 0, by decide⟩,
    .readBatch 5, .enqueue [4], .commitBatch]

theorem damage_contained_second_segment :
    ∃ traced, Reaches step Committing (start "queue" ⟨0, false⟩) traced ∧
      unaltered [2] (traced.handed ++ traced.state.queue.aheadAt traced.state.front) =
        [(1, [1]), (3, [3]), (4, [4])] := by
  have checked : (run (fun traced operation => if traced.Committing operation then
      step traced operation else none) (start "queue" ⟨0, false⟩) damagedOperations).map
        (fun traced => (traced.state.altered, unaltered [2] traced.state.stored)) =
          some ([2], [(1, [1]), (3, [3]), (4, [4])]) := by decide +kernel
  obtain ⟨traced, ran, shape⟩ := Option.map_eq_some_iff.mp checked
  obtain ⟨altered, stored⟩ := Prod.mk.inj shape
  have reached := Reaches.of_checked_run ran
  have records := (damage_contained reached).2.1
  rw [altered, stored] at records
  exact ⟨traced, reached, records⟩

end TracedState

end TelemetryFabric.Buffer
