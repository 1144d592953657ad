import TelemetryFabric.Buffer.Batch

/-!
A batch that is read and not committed. Reading renames a segment aside as soon as it
meets a refused record in it, also when records of that segment are already in the batch:
these are gone for the next read. `spared` says what the next read still finds of the
batch, and `keepsBatch` when that is all of it.
-/

namespace TelemetryFabric.Buffer
open Library

/-- The records of a batch of `maxItems` that stay on disk while it is read. A segment the
batch runs to the end of is lost with all its records if it ends in a refused one. -/
def spared : Nat → Nat → List (Nat × SegmentFile) → List Bytes
  | _, _, [] => []
  | maxItems, offset, (_, file) :: later =>
      let found := scan (file.bytes.drop offset)
      if maxItems ≤ found.1.length then found.1.take maxItems
      else (if found.2.bad then [] else found.1) ++ spared (maxItems - found.1.length) 0 later

/-- No segment with a refused record gives records to a batch that runs to its end. -/
def keepsBatch : Nat → Nat → List (Nat × SegmentFile) → Bool
  | _, _, [] => true
  | maxItems, offset, (_, file) :: later =>
      let found := scan (file.bytes.drop offset)
      maxItems ≤ found.1.length ||
        (!found.2.bad || found.1.isEmpty) && keepsBatch (maxItems - found.1.length) 0 later

def DiskQueue.spared (queue : DiskQueue) (maxItems : Nat) : List Bytes :=
  Buffer.spared maxItems (queue.startOffset queue.cursor) queue.dir.segments.entries

def DiskQueue.keepsBatch (queue : DiskQueue) (maxItems : Nat) : Bool :=
  Buffer.keepsBatch maxItems (queue.startOffset queue.cursor) queue.dir.segments.entries

theorem length_spared (maxItems offset : Nat) (listing : List (Nat × SegmentFile)) :
    (spared maxItems offset listing).length ≤ ((recordsOf offset listing).take maxItems).length := by
  induction listing generalizing maxItems offset with
  | nil => simp [spared, recordsOf]
  | cons entry later ih =>
    obtain ⟨id, file⟩ := entry
    simp only [spared, recordsOf]
    split_ifs with full refused
    · rw [List.take_append_of_le_length full]
    · have rest := ih (maxItems - (scan (file.bytes.drop offset)).1.length) 0
      simp only [List.nil_append, List.length_take, List.length_append] at *
      omega
    · have rest := ih (maxItems - (scan (file.bytes.drop offset)).1.length) 0
      simp only [List.length_take, List.length_append] at *
      omega

/-- The batch survives as a whole exactly when no segment with a refused record gave to it. -/
theorem spared_eq_take_iff (maxItems offset : Nat) (listing : List (Nat × SegmentFile)) :
    spared maxItems offset listing = (recordsOf offset listing).take maxItems ↔
      keepsBatch maxItems offset listing = true := by
  induction listing generalizing maxItems offset with
  | nil => simp [spared, recordsOf, keepsBatch]
  | cons entry later ih =>
    obtain ⟨id, file⟩ := entry
    have rest := ih (maxItems - (scan (file.bytes.drop offset)).1.length) 0
    simp only [spared, recordsOf, keepsBatch]
    by_cases full : maxItems ≤ (scan (file.bytes.drop offset)).1.length
    · rw [if_pos full, List.take_append_of_le_length full]
      simp [full]
    · rw [if_neg full, List.take_append, List.take_of_length_le (by omega)]
      by_cases refused : (scan (file.bytes.drop offset)).2.bad = true
      · rw [if_pos refused, List.nil_append]
        constructor
        · intro same
          have short := length_spared (maxItems - (scan (file.bytes.drop offset)).1.length) 0 later
          have none : (scan (file.bytes.drop offset)).1 = [] := by
            have lengths := congrArg List.length same
            rw [List.length_append] at lengths
            exact List.length_eq_zero_iff.mp (by omega)
          rw [none] at same rest
          simpa [full, refused, none] using Or.inr (rest.mp same)
        · intro keeps
          obtain ⟨none, onward⟩ : (scan (file.bytes.drop offset)).1 = [] ∧ Buffer.keepsBatch
              (maxItems - (scan (file.bytes.drop offset)).1.length) 0 later = true := by
            simpa [full, refused] using keeps
          rw [rest.mpr onward, none]
          rfl
      · rw [if_neg refused, List.append_right_inj, rest]
        simp [full, refused]

/-! ### What a read leaves -/

namespace DiskQueue

/-- Where the next read will enter the segment of a cursor. -/
def entryOffset (queue : DiskQueue) (cursor : Cursor) : Nat :=
  if cursor.segmentId = queue.cursor.segmentId then queue.startOffset queue.cursor else 0

/-- The records the next read will find in the segment of a cursor before it gets there. -/
def Entered (queue : DiskQueue) (cursor : Cursor) (here : List Bytes) : Prop :=
  (∀ file, queue.dir.segments.find? cursor.segmentId = some file →
    scan (file.bytes.drop (queue.entryOffset cursor)) =
      (here ++ (scan (file.bytes.drop cursor.offset)).1, (scan (file.bytes.drop cursor.offset)).2)) ∧
  (queue.dir.segments.find? cursor.segmentId = none → here = [])

variable {queue : DiskQueue}

theorem Sound.since_cursor (sound : queue.Sound) :
    queue.dir.segments.since queue.cursor.segmentId = queue.dir.segments.entries :=
  List.filter_eq_self.mpr fun entry member => by simpa using sound.floor entry member

theorem Sound.readable_eq (sound : queue.Sound) :
    queue.readable = recordsOf (queue.startOffset queue.cursor) queue.dir.segments.entries := by
  rw [← sound.since_cursor]
  exact readableAt_eq_recordsOf sound.topped sound.within.2.1

/-- With no segment before another one, the cursor is in that one or in a missing one. -/
theorem entryOffset_of_below_nil {cursor : Cursor}
    (within : queue.Within cursor) (none : queue.dir.segments.below cursor.segmentId = []) :
    queue.entryOffset cursor = queue.startOffset queue.cursor := by
  unfold entryOffset
  split_ifs with here
  · rfl
  · have absent : queue.dir.segments.find? queue.cursor.segmentId = Option.none := by
      rw [OrderedMap.find?_eq_none_iff]
      intro listed
      obtain ⟨entry, member, same⟩ := List.mem_map.mp listed
      have less : entry.1 < cursor.segmentId := same ▸ lt_of_le_of_ne within.1 (Ne.symm here)
      have inside : entry ∈ queue.dir.segments.below cursor.segmentId :=
        List.mem_filter.mpr ⟨member, by simpa using less⟩
      rw [none] at inside
      cases inside
    rw [startOffset, absent]
    rfl

theorem entryOffset_of_lt {cursor : Cursor} (beyond : queue.cursor.segmentId < cursor.segmentId) :
    queue.entryOffset cursor = 0 :=
  if_neg beyond.ne'

theorem Sound.entryOffset_of_below (sound : queue.Sound) {cursor : Cursor} {entry : Nat × SegmentFile}
    (inside : entry ∈ queue.dir.segments.below cursor.segmentId) : queue.entryOffset cursor = 0 := by
  obtain ⟨member, less⟩ := List.mem_filter.mp inside
  exact entryOffset_of_lt ((sound.floor entry member).trans_lt (by simpa using less))

/-- What the next read finds before the segment of a cursor, and from its start on. -/
theorem Sound.readable_split (sound : queue.Sound) {cursor : Cursor} (within : queue.Within cursor) :
    queue.readable = recordsOf (queue.startOffset queue.cursor) (queue.dir.segments.below cursor.segmentId) ++
      recordsOf (queue.entryOffset cursor) (queue.dir.segments.since cursor.segmentId) := by
  have partition := queue.dir.segments.partition_at cursor.segmentId
  rw [sound.readable_eq]
  cases before : queue.dir.segments.below cursor.segmentId with
  | nil =>
    rw [partition, before, DiskQueue.entryOffset_of_below_nil within before]
    rfl
  | cons entry rest =>
    have inside : entry ∈ queue.dir.segments.below cursor.segmentId := by simp [before]
    rw [partition, before, recordsOf_append _ _ _ (by simp), sound.entryOffset_of_below inside]

theorem entryOffset_of_missing {cursor : Cursor}
    (absent : queue.dir.segments.find? cursor.segmentId = none) : queue.entryOffset cursor = 0 := by
  unfold entryOffset
  split_ifs with here
  · rw [startOffset, ← here, absent]
    rfl
  · rfl

theorem Entered.records (sound : queue.Sound) {cursor : Cursor} {here : List Bytes}
    (within : queue.Within cursor) (entered : queue.Entered cursor here) :
    recordsOf (queue.entryOffset cursor) (queue.dir.segments.since cursor.segmentId) =
      here ++ queue.readableAt cursor := by
  rw [readableAt_eq_recordsOf sound.topped within.2.1, startOffset]
  cases found : queue.dir.segments.find? cursor.segmentId with
  | none =>
    rw [entered.2 found, entryOffset_of_missing found]
    rfl
  | some file =>
    rw [queue.dir.segments.since_of_find?_some found]
    simp only [recordsOf, entered.1 file found, Option.isSome_some, if_true, List.append_assoc]

theorem Within.lt_head {cursor : Cursor} {head : Nat × SegmentFile}
    {rest : List (Nat × SegmentFile)} (within : queue.Within cursor)
    (listing : queue.dir.segments.above cursor.segmentId = head :: rest) :
    queue.cursor.segmentId < head.1 := by
  have inside : head ∈ queue.dir.segments.above cursor.segmentId := by simp [listing]
  exact within.1.trans_lt (of_decide_eq_true (List.mem_filter.mp inside).2)

/-- At the start of a segment behind the cursor's nothing has been found in it yet. -/
theorem Entered.start {cursor : Cursor} (offset : queue.entryOffset cursor = 0)
    (start : cursor.offset = 0) : queue.Entered cursor [] := by
  refine ⟨?_, fun _ => rfl⟩
  intro file found
  rw [offset, start]
  rfl

end DiskQueue

/-- The loop of `read_batch` after some turns, seen from the read after it. -/
structure RetrySoFar (queue : DiskQueue) (maxItems : Nat) (current : DiskQueue) (cursor : Cursor)
    (commit : Bool) (batch : List Bytes) : Prop extends
    BatchSoFar queue current cursor commit batch where
  spares : ∃ here, current.Entered cursor here ∧
    queue.spared maxItems =
      recordsOf (current.startOffset current.cursor) (current.dir.segments.below cursor.segmentId) ++
        spared (maxItems - batch.length + here.length) (current.entryOffset cursor)
          (current.dir.segments.since cursor.segmentId)

/-- The next read finds a finished segment again, with everything it gave to the batch. -/
theorem spares_leave {queue : DiskQueue} {cursor : Cursor} {here : List Bytes} {need : Nat}
    {file : SegmentFile} {head : Nat × SegmentFile} {rest : List (Nat × SegmentFile)}
    (sound : queue.Sound) (within : queue.Within cursor) (entered : queue.Entered cursor here)
    (wanted : 0 < need) (found : queue.dir.segments.find? cursor.segmentId = some file)
    (parsed : parseRecord (file.bytes.drop cursor.offset) = .endOfFile)
    (listing : queue.dir.segments.above cursor.segmentId = head :: rest) :
    recordsOf (queue.startOffset queue.cursor) (queue.dir.segments.below cursor.segmentId) ++
        spared (need + here.length) (queue.entryOffset cursor)
          (queue.dir.segments.since cursor.segmentId) =
      recordsOf (queue.startOffset queue.cursor) (queue.dir.segments.below head.1) ++
        spared need 0 (queue.dir.segments.since head.1) := by
  obtain ⟨tail, whole, scanned⟩ : ∃ tail, tail.bad = false ∧
      scan (file.bytes.drop (queue.entryOffset cursor)) = (here, tail) := by
    rw [entered.1 file found, scan_endOfFile parsed, List.append_nil]
    refine ⟨_, ?_, rfl⟩
    split_ifs <;> rfl
  have passed : recordsOf (queue.startOffset queue.cursor) (queue.dir.segments.below head.1) =
      recordsOf (queue.startOffset queue.cursor) (queue.dir.segments.below cursor.segmentId) ++ here := by
    rw [queue.dir.segments.below_head_above listing, found]
    cases before : queue.dir.segments.below cursor.segmentId with
    | nil =>
      rw [← DiskQueue.entryOffset_of_below_nil within before]
      simp [recordsOf, scanned]
    | cons entry others =>
      have inside : entry ∈ queue.dir.segments.below cursor.segmentId := by simp [before]
      rw [sound.entryOffset_of_below inside, List.drop_zero] at scanned
      rw [recordsOf_append _ _ _ (by simp)]
      simp [recordsOf, scanned]
  rw [queue.dir.segments.since_of_find?_some found, queue.dir.segments.since_head_above listing, passed,
    List.append_assoc, spared, scanned]
  simp [whole, show ¬ need + here.length ≤ here.length by omega]

/-- A segment renamed aside leaves nothing of what it gave to the batch. -/
theorem spared_refused {queue : DiskQueue} {cursor : Cursor} {here : List Bytes} {need : Nat}
    {file : SegmentFile} (entered : queue.Entered cursor here) (wanted : 0 < need)
    (found : queue.dir.segments.find? cursor.segmentId = some file)
    (parsed : (parseRecord (file.bytes.drop cursor.offset)).refused = true) :
    spared (need + here.length) (queue.entryOffset cursor) (queue.dir.segments.since cursor.segmentId) =
      spared need 0 (queue.dir.segments.above cursor.segmentId) := by
  obtain ⟨none, bad⟩ := scan_refused parsed
  rw [queue.dir.segments.since_of_find?_some found, spared, entered.1 file found, none]
  simp [bad, show ¬ need + here.length ≤ here.length by omega]

/-- Renaming the segment of a cursor aside does not change what is read before it. -/
theorem DiskQueue.Sound.recordsOf_below_erase {queue : DiskQueue} (sound : queue.Sound) {id : Nat}
    {file : SegmentFile} (suffix : Nat) (reason : String)
    (found : queue.dir.segments.find? id = some file) :
    recordsOf ((queue.setAside id suffix file reason).startOffset queue.cursor)
        (queue.dir.segments.below id) =
      recordsOf (queue.startOffset queue.cursor) (queue.dir.segments.below id) := by
  cases before : queue.dir.segments.below id with
  | nil => rfl
  | cons entry rest =>
    have inside : entry ∈ queue.dir.segments.below id := by simp [before]
    obtain ⟨member, less⟩ := List.mem_filter.mp inside
    have beyond : queue.cursor.segmentId < id :=
      (sound.floor entry member).trans_lt (by simpa using less)
    unfold DiskQueue.startOffset
    rw [setAside_segments found, OrderedMap.find?_erase, if_neg beyond.ne]

theorem DiskQueue.Topped.above_active {queue : DiskQueue} (topped : queue.Topped) :
    queue.dir.segments.above queue.activeSegmentId = [] := by
  apply List.filter_eq_nil_iff.mpr
  intro entry member
  simpa using topped.le_active member

theorem DiskQueue.Topped.replaced_split {queue : DiskQueue} (topped : queue.Topped)
    {file : SegmentFile} (suffix : Nat) (reason : String)
    (found : queue.dir.segments.find? queue.activeSegmentId = some file) :
    ((queue.setAside queue.activeSegmentId suffix file reason).startSegment
      (queue.activeSegmentId + 1)).dir.segments.below (queue.activeSegmentId + 1) =
        queue.dir.segments.below queue.activeSegmentId ∧
    ((queue.setAside queue.activeSegmentId suffix file reason).startSegment
      (queue.activeSegmentId + 1)).dir.segments.since (queue.activeSegmentId + 1) =
        [(queue.activeSegmentId + 1, .empty)] := by
  have older : ∀ entry ∈ queue.dir.segments.below queue.activeSegmentId,
      entry.1 < queue.activeSegmentId := by
    intro entry member
    simpa using (List.mem_filter.mp member).2
  have entries := topped.replaced_entries suffix reason found
  constructor
  · rw [OrderedMap.below, entries, List.filter_append]
    have kept : (queue.dir.segments.below queue.activeSegmentId).filter
        (fun entry => entry.1 < queue.activeSegmentId + 1) =
          queue.dir.segments.below queue.activeSegmentId := by
      apply List.filter_eq_self.mpr
      intro entry member
      exact decide_eq_true (Nat.lt_succ_of_lt (older entry member))
    rw [kept]
    simp
  · rw [OrderedMap.since, entries, List.filter_append]
    have none : (queue.dir.segments.below queue.activeSegmentId).filter
        (fun entry => queue.activeSegmentId + 1 ≤ entry.1) = [] := by
      apply List.filter_eq_nil_iff.mpr
      intro entry member
      have less := older entry member
      simp only [decide_eq_true_eq]
      omega
    rw [none]
    simp

theorem DiskQueue.Sound.startOffset_replaced {queue : DiskQueue} (sound : queue.Sound)
    {file : SegmentFile} (suffix : Nat) (reason : String) :
    ((queue.setAside queue.activeSegmentId suffix file reason).startSegment
      (queue.activeSegmentId + 1)).startOffset
        ((queue.setAside queue.activeSegmentId suffix file reason).startSegment
          (queue.activeSegmentId + 1)).cursor =
      (queue.setAside queue.activeSegmentId suffix file reason).startOffset queue.cursor := by
  have other : queue.cursor.segmentId ≠ queue.activeSegmentId + 1 := by
    have bound := sound.within.2.1
    omega
  have same : ((queue.setAside queue.activeSegmentId suffix file reason).startSegment
      (queue.activeSegmentId + 1)).dir.segments.find? queue.cursor.segmentId =
        (queue.setAside queue.activeSegmentId suffix file reason).dir.segments.find?
          queue.cursor.segmentId := by
    simp only [DiskQueue.startSegment, Directory.createSegment]
    rw [OrderedMap.find?_insert, if_neg other]
  change DiskQueue.startOffset _ queue.cursor = _
  rw [DiskQueue.startOffset, same, DiskQueue.startOffset]

theorem retrySoFar_invariant {queue : DiskQueue} (start : queue.Sound) (maxItems : Nat) :
    LoopInvariant maxItems (RetrySoFar queue maxItems) where
  record := by
    intro current cursor commit batch payload next later sofar wanted steps
    refine ⟨(batchSoFar_invariant queue maxItems).record sofar.toBatchSoFar wanted steps, ?_⟩
    obtain ⟨here, entered, spares⟩ := sofar.spares
    obtain ⟨rfl, rfl, file, found, parsed⟩ := steps.of_record
    refine ⟨here ++ [payload], ⟨?_, ?_⟩, ?_⟩
    · intro other same
      rw [found] at same
      cases same
      have behind : (file.bytes.drop cursor.offset).drop (recordHeaderLen + payload.length) =
          file.bytes.drop (cursor.offset + recordHeaderLen + payload.length) := by
        rw [List.drop_drop, Nat.add_assoc]
      have split := entered.1 file found
      rw [scan_record parsed, behind] at split
      rw [List.append_assoc]
      exact split
    · intro absent
      rw [found] at absent
      cases absent
    · have count : maxItems - (batch ++ [payload]).length + (here ++ [payload]).length =
          maxItems - batch.length + here.length := by
        simp only [List.length_append, List.length_singleton]
        omega
      rw [count]
      exact spares
  move := by
    intro current cursor commit batch next later sofar wanted steps
    have moved := (batchSoFar_invariant queue maxItems).move sofar.toBatchSoFar wanted steps
    refine ⟨moved, ?_⟩
    obtain ⟨here, entered, spares⟩ := sofar.spares
    have sound := sofar.sound start
    have within := sofar.within
    have need : 0 < maxItems - batch.length := by omega
    generalize target : ReadStep.move next = step at steps
    cases steps with
    | missing absent =>
      obtain ⟨head, rest, listing, rfl⟩ := moveOrEmpty_eq_move target.symm
      have entry : current.entryOffset ⟨head.1, 0⟩ = 0 :=
        DiskQueue.entryOffset_of_lt (within.lt_head listing)
      refine ⟨[], DiskQueue.Entered.start entry rfl, ?_⟩
      rw [spares, entered.2 absent, DiskQueue.entryOffset_of_missing absent, entry,
        current.dir.segments.since_of_find?_none absent, current.dir.segments.since_head_above listing,
        current.dir.segments.below_head_above listing, absent]
      simp
    | record => cases target
    | finished => cases target
    | leave file found parsed older =>
      obtain ⟨head, rest, listing, rfl⟩ := moveOrEmpty_eq_move target.symm
      have entry : current.entryOffset ⟨head.1, 0⟩ = 0 :=
        DiskQueue.entryOffset_of_lt (within.lt_head listing)
      refine ⟨[], DiskQueue.Entered.start entry rfl, ?_⟩
      rw [spares, spares_leave sound within entered need found parsed listing, entry]
      rfl
    | quarantine file suffix reason found parsed free older =>
      obtain ⟨head, rest, listing, rfl⟩ := moveOrEmpty_eq_move target.symm
      have segments : (current.setAside cursor.segmentId suffix file reason).dir.segments =
          current.dir.segments.erase cursor.segmentId := setAside_segments found
      have above : (current.dir.segments.erase cursor.segmentId).above cursor.segmentId = head :: rest := by
        rw [OrderedMap.above_erase, listing]
      have gone : (current.dir.segments.erase cursor.segmentId).find? cursor.segmentId = none := by
        rw [OrderedMap.find?_erase, if_pos rfl]
      have entry : (current.setAside cursor.segmentId suffix file reason).entryOffset ⟨head.1, 0⟩ = 0 :=
        DiskQueue.entryOffset_of_lt (within.lt_head listing)
      refine ⟨[], DiskQueue.Entered.start entry rfl, ?_⟩
      have kept := sound.recordsOf_below_erase suffix reason found
      rw [spares, spared_refused entered need found parsed, entry, segments,
        OrderedMap.below_head_above _ above, gone, OrderedMap.since_head_above _ above,
        OrderedMap.above_erase, OrderedMap.below_erase _ le_rfl]
      have unmoved : (current.setAside cursor.segmentId suffix file reason).cursor = current.cursor := rfl
      rw [unmoved, ← kept]
      simp
    | replace file suffix reason found parsed free active room =>
      cases target
      obtain ⟨id, offset⟩ := cursor
      obtain rfl : id = current.activeSegmentId := sound.toShaped.topped.segmentId_eq_active found active
      have entry : ((current.setAside current.activeSegmentId suffix file reason).startSegment
          (current.activeSegmentId + 1)).entryOffset ⟨current.activeSegmentId + 1, 0⟩ = 0 :=
        DiskQueue.entryOffset_of_lt (Nat.lt_succ_of_le within.1)
      have above := sound.topped.above_active
      obtain ⟨below, since⟩ := sound.topped.replaced_split suffix reason found
      refine ⟨[], DiskQueue.Entered.start entry rfl, ?_⟩
      rw [spares, spared_refused entered need found parsed, above, entry, below, since,
        sound.startOffset_replaced suffix reason, sound.recordsOf_below_erase suffix reason found]
      simp [spared, SegmentFile.empty]
  empty := by
    intro current cursor commit batch later sofar wanted steps
    obtain rfl := (sofar.shaped.at_end sofar.within steps).1
    exact sofar

theorem spared_zero (offset : Nat) (listing : List (Nat × SegmentFile)) : spared 0 offset listing = [] := by
  cases listing with
  | nil => rfl
  | cons entry later => simp [spared]

/-- A batch that is full in the middle of a segment keeps what it took from it. -/
theorem DiskQueue.Entered.spared_here {queue : DiskQueue} {cursor : Cursor} {here : List Bytes}
    (entered : queue.Entered cursor here) :
    Buffer.spared here.length (queue.entryOffset cursor)
      (queue.dir.segments.since cursor.segmentId) = here := by
  cases found : queue.dir.segments.find? cursor.segmentId with
  | none => rw [entered.2 found, List.length_nil, spared_zero]
  | some file =>
    rw [queue.dir.segments.since_of_find?_some found, Buffer.spared, entered.1 file found]
    simp

/-- So does one that ends where the active segment does. -/
theorem DiskQueue.Entered.spared_end {queue : DiskQueue} {cursor : Cursor} {here : List Bytes}
    {need : Nat} (entered : queue.Entered cursor here) (topped : queue.Topped)
    (active : cursor.segmentId = queue.activeSegmentId)
    (parsed : parseRecord (queue.activeFile.bytes.drop cursor.offset) = .endOfFile) :
    Buffer.spared (need + here.length) (queue.entryOffset cursor)
      (queue.dir.segments.since cursor.segmentId) = here := by
  have found := topped.find?_active
  rw [← active] at found
  have scanned := entered.1 _ found
  rw [scan_endOfFile parsed, List.append_nil] at scanned
  have none := topped.above_active
  rw [← active] at none
  rw [queue.dir.segments.since_of_find?_some found, none, Buffer.spared, scanned]
  by_cases full : need + here.length ≤ here.length
  · rw [if_pos full]
    exact List.take_of_length_le (Nat.le_add_left _ _)
  · have whole : (if queue.activeFile.bytes.drop cursor.offset = [] then Tail.clean
        else Tail.shortHeader).bad = false := by
      split_ifs <;> rfl
    simp only [if_neg full, whole, Bool.false_eq_true, if_false, Buffer.spared, List.append_nil]

/-- What a read leaves for the next one: the spared records of the batch, then the rest. -/
theorem readBatch_leaves {queue later : DiskQueue} {maxItems : Nat} {batch : PendingBatch}
    (sound : queue.Sound) (read : readBatch maxItems ⟨queue, []⟩ = .ok batch ⟨later, []⟩) :
    later.readable = queue.spared maxItems ++ queue.readable.drop maxItems := by
  have start : RetrySoFar queue maxItems queue queue.cursor false [] := by
    refine ⟨⟨sound.toShaped, id, sound.within, rfl, ⟨[], rfl, rfl⟩, fun _ _ => rfl, Or.inl rfl,
      fun _ => ⟨rfl, rfl, id⟩⟩, [], ?_, ?_⟩
    · refine ⟨?_, fun _ => rfl⟩
      intro file found
      rw [DiskQueue.entryOffset, if_pos rfl, DiskQueue.startOffset, found]
      rfl
    · have none : queue.dir.segments.below queue.cursor.segmentId = [] := by
        apply List.filter_eq_nil_iff.mpr
        intro entry member
        simpa using sound.floor entry member
      rw [none, sound.since_cursor, DiskQueue.entryOffset, if_pos rfl]
      rfl
  rcases readBatch_rule (retrySoFar_invariant sound maxItems) start (fits_of_readBatch read) with
    ⟨result, last, done, sofar, size, ended⟩ | ⟨message, last, failed, -⟩
  · rw [read] at done
    cases done
    obtain ⟨here, entered, spares⟩ := sofar.spares
    have whole : spared (maxItems - batch.payloads.length + here.length)
        (later.entryOffset batch.nextCursor) (later.dir.segments.since batch.nextCursor.segmentId) =
          here := by
      rcases ended with full | ⟨before, sofarBefore, last⟩
      · rw [full, Nat.sub_self, Nat.zero_add]
        exact entered.spared_here
      · obtain ⟨rfl, active, parsed⟩ := sofarBefore.shaped.at_end sofarBefore.within last
        exact entered.spared_end sofar.shaped.topped active parsed
    rw [(sofar.sound sound).readable_split sofar.within,
      entered.records (sofar.sound sound) sofar.within, (Took.of_readBatch sound.toShaped read).rest, spares, whole, List.append_assoc]
  · rw [read] at failed
    cases failed

/-- The next read returns the same payloads, with the same records left behind them. -/
def ReadAgain (maxItems : Nat) (batch : PendingBatch) (later : DiskQueue) : Prop :=
  ∃ again last, readBatch maxItems ⟨later, []⟩ = .ok again ⟨last, []⟩ ∧
    again.payloads = batch.payloads ∧
    last.readableAt again.nextCursor = later.readableAt batch.nextCursor

/-- A batch that keeps its segments leaves everything readable. -/
theorem readable_of_keepsBatch {queue later : DiskQueue} {maxItems : Nat} {batch : PendingBatch}
    (sound : queue.Sound) (read : readBatch maxItems ⟨queue, []⟩ = .ok batch ⟨later, []⟩)
    (keeps : queue.keepsBatch maxItems = true) : later.readable = queue.readable := by
  have whole : queue.spared maxItems = queue.readable.take maxItems := by
    rw [sound.readable_eq]
    exact (spared_eq_take_iff _ _ _).mpr keeps
  rw [readBatch_leaves sound read, whole, List.take_append_drop]

theorem readAgain_iff {queue later : DiskQueue} {maxItems : Nat} {batch : PendingBatch}
    (sound : queue.Sound) (read : readBatch maxItems ⟨queue, []⟩ = .ok batch ⟨later, []⟩) :
    ReadAgain maxItems batch later ↔ queue.keepsBatch maxItems = true := by
  have first := Took.of_readBatch sound.toShaped read
  constructor
  · rintro ⟨again, last, retried, payloads, rest⟩
    have second := Took.of_readBatch first.shaped retried
    have halves : batch.payloads ++ queue.readable.drop maxItems =
        queue.spared maxItems ++ queue.readable.drop maxItems := by
      calc batch.payloads ++ queue.readable.drop maxItems
          = again.payloads ++ last.readableAt again.nextCursor := by rw [payloads, rest, first.rest]
        _ = later.readable := by rw [second.payloads, second.rest, List.take_append_drop]
        _ = queue.spared maxItems ++ queue.readable.drop maxItems := readBatch_leaves sound read
    have whole : queue.spared maxItems = queue.readable.take maxItems := by
      rw [← first.payloads]
      exact (List.append_cancel_right halves).symm
    rw [sound.readable_eq] at whole
    exact (spared_eq_take_iff _ _ _).mp whole
  · intro keeps
    have same := readable_of_keepsBatch sound read keeps
    rcases readBatch_takes first.shaped (fits_of_readBatch read) with
      ⟨again, last, retried, second⟩ | ⟨message, last, failed, -, short, bad⟩
    · refine ⟨again, last, retried, ?_, ?_⟩
      · rw [second.payloads, same, first.payloads]
      · rw [second.rest, same, first.rest]
    · -- the first read met the end of the queue, so no refused record is left to be stuck at
      rw [same] at short
      have ended := first.tail (by rw [first.payloads, List.length_take]; omega)
      rw [bad] at ended
      cases ended

end TelemetryFabric.Buffer
