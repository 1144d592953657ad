import TelemetryFabric.Buffer.Calm

/-!
An `enqueue` that is cut short. Whatever call the fault hits, a prefix of the record has
reached the active segment file, behind the rotation if one was due.
-/

namespace TelemetryFabric.Buffer
open Library

/-- The queue with other content in a segment file; the counters stay. -/
def DiskQueue.withFile (queue : DiskQueue) (id : Nat) (file : SegmentFile) : DiskQueue :=
  { queue with dir := { queue.dir with segments := queue.dir.segments.insert id file } }

/-- The calls of `enqueue` behind the open, up to the one that is cut short. -/
def tornWrites (cut : Nat) (fault : Nat → Fault) : List (Option Fault) :=
  if cut < 4 then [some (fault cut)]
  else if cut < recordHeaderLen then [none, some (fault (cut - 4))]
  else [none, none, some (fault (cut - recordHeaderLen))]

def tornPlan (queue : DiskQueue) (payload : Bytes) (cut : Nat) (fault : Nat → Fault) :
    List (Option Fault) :=
  (if queue.rotates payload then [none] else []) ++ none :: tornWrites cut fault

/-! ### Single calls -/

theorem call_none (effect : Directory → Directory) (queue : DiskQueue) (plan : List (Option Fault)) :
    call effect ⟨queue, none :: plan⟩ = .ok () ⟨{ queue with dir := effect queue.dir }, plan⟩ := rfl

theorem write_none {size : Nat} {effect : Nat → Directory → Option Directory} {queue : DiskQueue}
    {dir : Directory} (plan : List (Option Fault)) (fits : effect size queue.dir = some dir) :
    write size effect ⟨queue, none :: plan⟩ = .ok () ⟨{ queue with dir := dir }, plan⟩ := by
  simp [write, nextFault, fits]

/-- A write that fails leaves the bytes that got out, or nothing new in a full file. -/
theorem write_some (size count : Nat) (effect : Nat → Directory → Option Directory)
    (queue : DiskQueue) {fault : Nat → Fault} (kind : fault = .error ∨ fault = .crash)
    (plan : List (Option Fault)) :
    ∃ halt, write size effect ⟨queue, some (fault count) :: plan⟩ =
      .error halt ⟨{ queue with dir := (effect (min count size) queue.dir).getD queue.dir }, plan⟩ := by
  rcases kind with rfl | rfl
  · cases written : effect (min count size) queue.dir with
    | none => exact ⟨.raised .io, by simp [write, nextFault, written]⟩
    | some dir => exact ⟨.raised .io, by simp [write, nextFault, written]⟩
  · cases written : effect (min count size) queue.dir with
    | none => exact ⟨.raised .io, by simp [write, nextFault, written]⟩
    | some dir => exact ⟨.crashed, by simp [write, nextFault, written]⟩

theorem write_none_full {size : Nat} {effect : Nat → Directory → Option Directory}
    {queue : DiskQueue} (plan : List (Option Fault)) (full : effect size queue.dir = none) :
    write size effect ⟨queue, none :: plan⟩ = .error (.raised .io) ⟨queue, plan⟩ := by
  simp [write, nextFault, full]

/-! ### The torn record -/

theorem withFile_withFile (queue : DiskQueue) (id : Nat) (old new : SegmentFile) :
    (queue.withFile id old).withFile id new = queue.withFile id new := by
  simp only [DiskQueue.withFile, OrderedMap.insert_insert]

theorem find?_withFile (queue : DiskQueue) (id : Nat) (file : SegmentFile) :
    (queue.withFile id file).dir.segments.find? id = some file :=
  OrderedMap.find?_insert_self _ _ _

/-- The write of one chunk of a record. -/
def writeChunk (id : Nat) (chunk : Bytes) : QueueM Unit :=
  write chunk.length fun count dir => dir.appendSegment? id (chunk.take count)

/-- A chunk cut short leaves a prefix of itself in the file. -/
theorem writeChunk_some (queue : DiskQueue) (id : Nat) (file : SegmentFile) (chunk : Bytes)
    (count : Nat) {fault : Nat → Fault} (kind : fault = .error ∨ fault = .crash)
    (plan : List (Option Fault)) :
    ∃ (part : SegmentFile) (piece : Bytes) (halt : Halt), piece <+: chunk ∧ piece.length ≤ count ∧
      part.bytes = file.bytes ++ piece ∧
      writeChunk id chunk ⟨queue.withFile id file, some (fault count) :: plan⟩ =
        .error halt ⟨queue.withFile id part, plan⟩ := by
  have found := find?_withFile queue id file
  obtain ⟨halt, written⟩ := write_some chunk.length count
    (fun count dir => dir.appendSegment? id (chunk.take count)) (queue.withFile id file) kind plan
  cases appended : file.append? (chunk.take (min count chunk.length)) with
  | none =>
    refine ⟨file, [], halt, List.nil_prefix, Nat.zero_le _, by simp, ?_⟩
    rw [appendSegment?_full found appended] at written
    exact written
  | some part =>
    refine ⟨part, chunk.take (min count chunk.length), halt, List.take_prefix _ _, ?_,
      SegmentFile.append?_eq_some appended, ?_⟩
    · rw [List.length_take]
      omega
    · rw [appendSegment?_of_find found appended] at written
      rw [← withFile_withFile queue id file part]
      exact written

/-- A chunk that meets no fault goes out whole, or stops at a full file with nothing written. -/
theorem writeChunk_none (queue : DiskQueue) (id : Nat) (file : SegmentFile) (chunk : Bytes)
    (plan : List (Option Fault)) :
    (∃ whole : SegmentFile, whole.bytes = file.bytes ++ chunk ∧
      writeChunk id chunk ⟨queue.withFile id file, none :: plan⟩ =
        .ok () ⟨queue.withFile id whole, plan⟩) ∨
    writeChunk id chunk ⟨queue.withFile id file, none :: plan⟩ =
      .error (.raised .io) ⟨queue.withFile id file, plan⟩ := by
  have found := find?_withFile queue id file
  cases appended : file.append? chunk with
  | none =>
    refine Or.inr (write_none_full plan ?_)
    rw [List.take_length]
    exact appendSegment?_full found appended
  | some whole =>
    refine Or.inl ⟨whole, SegmentFile.append?_eq_some appended, ?_⟩
    rw [← withFile_withFile queue id file whole]
    apply write_none plan
    rw [List.take_length]
    exact appendSegment?_of_find found appended

theorem appendRecord_eq (id : Nat) (payload : Bytes) :
    appendRecord id payload = (do
      call (·.openSegment id)
      writeChunk id (littleEndian 4 payload.length)
      writeChunk id (littleEndian 4 (checksum32 payload).toNat)
      writeChunk id payload) := rfl

/-- `appendRecord` under a fault in one of its writes. -/
theorem appendRecord_torn (queue : DiskQueue) (id : Nat) (payload : Bytes) (cut : Nat)
    {fault : Nat → Fault} (kind : fault = .error ∨ fault = .crash) :
    ∃ (file : SegmentFile) (piece : Bytes) (halt : Halt) (plan : List (Option Fault)),
      piece <+: frame payload ∧ piece.length ≤ cut ∧
      file.bytes = ((queue.dir.segments.find? id).getD .empty).bytes ++ piece ∧
      appendRecord id payload ⟨queue, none :: tornWrites cut fault⟩ =
        .error halt ⟨queue.withFile id file, plan⟩ := by
  have opened : ∀ plan, call (·.openSegment id) ⟨queue, none :: plan⟩ =
      .ok () ⟨queue.withFile id ((queue.dir.segments.find? id).getD .empty), plan⟩ := fun _ => rfl
  have header : littleEndian 4 payload.length <+: frame payload :=
    ⟨_, (List.append_assoc _ _ _).symm⟩
  have sum : littleEndian 4 payload.length ++ littleEndian 4 (checksum32 payload).toNat <+:
      frame payload := ⟨payload, rfl⟩
  rw [appendRecord_eq]
  simp only [bind_apply, opened]
  generalize (queue.dir.segments.find? id).getD .empty = file
  unfold tornWrites
  split_ifs with first second
  · obtain ⟨part, piece, halt, inside, size, bytes, done⟩ :=
      writeChunk_some queue id file (littleEndian 4 payload.length) cut kind []
    exact ⟨part, piece, halt, [], inside.trans header, size, bytes, by simp only [done]⟩
  · rcases writeChunk_none queue id file (littleEndian 4 payload.length) [some (fault (cut - 4))] with
      ⟨middle, middleBytes, done⟩ | full
    · obtain ⟨part, piece, halt, inside, size, bytes, cutShort⟩ :=
        writeChunk_some queue id middle (littleEndian 4 (checksum32 payload).toNat) (cut - 4) kind []
      refine ⟨part, littleEndian 4 payload.length ++ piece, halt, [], ?_, ?_, ?_, by simp only [done, cutShort]⟩
      · exact ((List.prefix_append_right_inj _).mpr inside).trans sum
      · rw [List.length_append, length_littleEndian]
        omega
      · rw [bytes, middleBytes, List.append_assoc]
    · exact ⟨file, [], _, _, List.nil_prefix, Nat.zero_le _, by simp, by simp only [full]; rfl⟩
  · rcases writeChunk_none queue id file (littleEndian 4 payload.length)
      [none, some (fault (cut - recordHeaderLen))] with ⟨middle, middleBytes, done⟩ | full
    · rcases writeChunk_none queue id middle (littleEndian 4 (checksum32 payload).toNat)
        [some (fault (cut - recordHeaderLen))] with ⟨summed, summedBytes, doneToo⟩ | full
      · obtain ⟨part, piece, halt, inside, size, bytes, cutShort⟩ :=
          writeChunk_some queue id summed payload (cut - recordHeaderLen) kind []
        refine ⟨part, littleEndian 4 payload.length ++ littleEndian 4 (checksum32 payload).toNat ++ piece,
          halt, [], ?_, ?_, ?_, by simp only [done, doneToo, cutShort]⟩
        · exact (List.prefix_append_right_inj _).mpr inside
        · simp only [List.length_append, length_littleEndian, recordHeaderLen] at *
          omega
        · rw [bytes, summedBytes, middleBytes]
          simp
      · refine ⟨middle, littleEndian 4 payload.length, _, _, header, ?_, middleBytes,
          by simp only [done, full]; rfl⟩
        rw [length_littleEndian]
        omega
    · exact ⟨file, [], _, _, List.nil_prefix, Nat.zero_le _, by simp, by simp only [full]; rfl⟩

/-- An `enqueue` cut short: refused before anything is written, or a prefix of the record
is in the active segment. -/
theorem enqueue_torn (queue : DiskQueue) (payload : Bytes) (cut : Nat) {fault : Nat → Fault}
    (kind : fault = .error ∨ fault = .crash) :
    (∃ error later, error ≠ .io ∧
      enqueue payload ⟨queue, tornPlan queue payload cut fault⟩ = .error (.raised error) later) ∨
    (∃ (file : SegmentFile) (piece : Bytes) (halt : Halt) (plan : List (Option Fault)),
      payload.length ≤ u32Max ∧ (queue.rotates payload → queue.activeSegmentId < u64Max) ∧
      piece <+: frame payload ∧ piece.length ≤ cut ∧
      file.bytes = (queue.rotated payload).activeFile.bytes ++ piece ∧
      enqueue payload ⟨queue, tornPlan queue payload cut fault⟩ =
        .error halt ⟨(queue.rotated payload).withFile (queue.rotated payload).activeSegmentId file, plan⟩) := by
  by_cases small : payload.length ≤ u32Max
  · by_cases room : queue.rotates payload → queue.activeSegmentId < u64Max
    · obtain ⟨file, piece, halt, plan, inside, size, bytes, done⟩ := appendRecord_torn
        (queue.rotated payload) (queue.rotated payload).activeSegmentId payload cut kind
      refine Or.inr ⟨file, piece, halt, plan, small, room, inside, size, bytes, ?_⟩
      rw [enqueue_small small, tornPlan]
      by_cases rotates : queue.rotates payload
      · have turned : rotateSegment ⟨queue, none :: none :: tornWrites cut fault⟩ =
            .ok () ⟨queue.rotated payload, none :: tornWrites cut fault⟩ := by
          simp [rotateSegment, room rotates, call_none, DiskQueue.rotated, rotates,
            DiskQueue.startSegment]
        rw [if_pos rotates, if_pos rotates]
        simp only [List.cons_append, List.nil_append, bind_apply, turned, storeRecord, getQueue_apply,
          done]
      · have same : queue.rotated payload = queue := if_neg rotates
        rw [same] at done ⊢
        rw [if_neg rotates, if_neg rotates]
        simp only [List.nil_append, storeRecord, bind_apply, getQueue_apply, done]
    · obtain ⟨rotates, exhausted⟩ := Classical.not_imp.mp room
      exact Or.inl ⟨_, _, by simp, enqueue_overflow small rotates exhausted _⟩
  · exact Or.inl ⟨_, _, by simp, enqueue_large small _⟩

end TelemetryFabric.Buffer
