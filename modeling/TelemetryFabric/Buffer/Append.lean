import TelemetryFabric.Buffer.Records
import TelemetryFabric.Buffer.Torn
import TelemetryFabric.Library.Ensures

/-!
Appending while file-system calls fail in any pattern. An `enqueue` stores the whole record,
refuses it and changes nothing, or is ended by the file system with a prefix of the record
written. No segment is ever above the active one, so that what an `enqueue` writes always
comes behind everything that is in the segment files already.
-/

namespace TelemetryFabric.Buffer
open Library

/-! ### Single calls -/

/-- The operation was ended by the file system, not by a check of the queue. -/
def Halt.Outside (halt : Halt) : Prop := halt = .raised .io ∨ halt = .crashed

theorem call_cases (effect : Directory → Directory) (queue : DiskQueue) (plan : List (Option Fault)) :
    ∃ rest, call effect ⟨queue, plan⟩ = .ok () ⟨{ queue with dir := effect queue.dir }, rest⟩ ∨
      ∃ halt : Halt, halt.Outside ∧ call effect ⟨queue, plan⟩ = .error halt ⟨queue, rest⟩ := by
  match plan with
  | [] => exact ⟨[], Or.inl rfl⟩
  | none :: rest => exact ⟨rest, Or.inl rfl⟩
  | some (.error _) :: rest => exact ⟨rest, Or.inr ⟨.raised .io, Or.inl rfl, rfl⟩⟩
  | some (.crash _) :: rest => exact ⟨rest, Or.inr ⟨.crashed, Or.inr rfl, rfl⟩⟩

/-- A write puts everything out, or as much as it does before the file system ends it. -/
theorem write_cases (size : Nat) (effect : Nat → Directory → Option Directory) (queue : DiskQueue)
    (plan : List (Option Fault)) :
    ∃ rest, (∃ dir, effect size queue.dir = some dir ∧
        write size effect ⟨queue, plan⟩ = .ok () ⟨{ queue with dir := dir }, rest⟩) ∨
      ∃ (halt : Halt) (count : Nat), halt.Outside ∧ write size effect ⟨queue, plan⟩ =
        .error halt ⟨{ queue with dir := (effect count queue.dir).getD queue.dir }, rest⟩ := by
  have whole : ∀ plan rest, nextFault ⟨queue, plan⟩ = .ok none ⟨queue, rest⟩ →
      (∃ dir, effect size queue.dir = some dir ∧
        write size effect ⟨queue, plan⟩ = .ok () ⟨{ queue with dir := dir }, rest⟩) ∨
      ∃ (halt : Halt) (count : Nat), halt.Outside ∧ write size effect ⟨queue, plan⟩ =
        .error halt ⟨{ queue with dir := (effect count queue.dir).getD queue.dir }, rest⟩ := by
    intro plan rest calm
    cases written : effect size queue.dir with
    | none => exact Or.inr ⟨.raised .io, size, Or.inl rfl, by simp [write, calm, written]⟩
    | some dir => exact Or.inl ⟨dir, rfl, by simp [write, calm, written]⟩
  rcases plan with _ | ⟨_ | count | count, rest⟩
  · exact ⟨[], whole [] [] rfl⟩
  · exact ⟨rest, whole (none :: rest) rest rfl⟩
  · refine ⟨rest, Or.inr ?_⟩
    cases written : effect (min count size) queue.dir with
    | none => exact ⟨.raised .io, min count size, Or.inl rfl, by simp [write, nextFault, written]⟩
    | some dir => exact ⟨.raised .io, min count size, Or.inl rfl, by simp [write, nextFault, written]⟩
  · refine ⟨rest, Or.inr ?_⟩
    cases written : effect (min count size) queue.dir with
    | none => exact ⟨.raised .io, min count size, Or.inl rfl, by simp [write, nextFault, written]⟩
    | some dir => exact ⟨.crashed, min count size, Or.inr rfl, by simp [write, nextFault, written]⟩

theorem writeChunk_cases (queue : DiskQueue) (id : Nat) (file : SegmentFile) (chunk : Bytes)
    (plan : List (Option Fault)) :
    ∃ rest, (∃ whole : SegmentFile, whole.bytes = file.bytes ++ chunk ∧
        writeChunk id chunk ⟨queue.withFile id file, plan⟩ = .ok () ⟨queue.withFile id whole, rest⟩) ∨
      ∃ (halt : Halt) (part : SegmentFile) (piece : Bytes), halt.Outside ∧ piece <+: chunk ∧
        part.bytes = file.bytes ++ piece ∧
        writeChunk id chunk ⟨queue.withFile id file, plan⟩ = .error halt ⟨queue.withFile id part, rest⟩ := by
  have found := find?_withFile queue id file
  obtain ⟨rest, result⟩ := write_cases chunk.length
    (fun count dir => dir.appendSegment? id (chunk.take count)) (queue.withFile id file) plan
  refine ⟨rest, ?_⟩
  rcases result with ⟨dir, fits, done⟩ | ⟨halt, count, outside, failed⟩
  · rw [List.take_length] at fits
    cases appended : file.append? chunk with
    | none => simp [appendSegment?_full found appended] at fits
    | some whole =>
      rw [appendSegment?_of_find found appended] at fits
      cases fits
      refine Or.inl ⟨whole, SegmentFile.append?_eq_some appended, ?_⟩
      rw [← withFile_withFile queue id file whole]
      exact done
  · cases appended : file.append? (chunk.take count) with
    | none =>
      rw [appendSegment?_full found appended] at failed
      exact Or.inr ⟨halt, file, [], outside, List.nil_prefix, by simp, failed⟩
    | some part =>
      rw [appendSegment?_of_find found appended] at failed
      refine Or.inr ⟨halt, part, chunk.take count, outside, List.take_prefix _ _,
        SegmentFile.append?_eq_some appended, ?_⟩
      rw [← withFile_withFile queue id file part]
      exact failed

/-! ### The record -/

/-- A record that was ended by the file system: a prefix of it is in the file. -/
def DiskQueue.Cut (queue : DiskQueue) (id : Nat) (payload : Bytes) (later : DiskQueue) : Prop :=
  ∃ (file : SegmentFile) (piece : Bytes), piece <+: frame payload ∧
    file.bytes = ((queue.dir.segments.find? id).getD .empty).bytes ++ piece ∧
    later = queue.withFile id file

theorem appendRecord_cases (queue : DiskQueue) (id : Nat) (payload : Bytes) (plan : List (Option Fault)) :
    ∃ rest, (∃ full : SegmentFile,
        full.bytes = ((queue.dir.segments.find? id).getD .empty).bytes ++ frame payload ∧
        appendRecord id payload ⟨queue, plan⟩ = .ok () ⟨queue.withFile id full, rest⟩) ∨
      ∃ (halt : Halt) (later : DiskQueue), halt.Outside ∧ (later = queue ∨ queue.Cut id payload later) ∧
        appendRecord id payload ⟨queue, plan⟩ = .error halt ⟨later, rest⟩ := by
  have header : littleEndian 4 payload.length <+: frame payload :=
    ⟨_, (List.append_assoc _ _ _).symm⟩
  have sum : littleEndian 4 payload.length ++ littleEndian 4 (checksum32 payload).toNat <+:
      frame payload := ⟨payload, rfl⟩
  unfold DiskQueue.Cut
  rw [appendRecord_eq]
  obtain ⟨first, opened⟩ := call_cases (·.openSegment id) queue plan
  rcases opened with opened | ⟨halt, outside, failed⟩
  · rw [show ({ queue with dir := queue.dir.openSegment id } : DiskQueue) =
      queue.withFile id ((queue.dir.segments.find? id).getD .empty) from rfl] at opened
    generalize (queue.dir.segments.find? id).getD .empty = file at opened ⊢
    simp only [bind_apply, opened]
    obtain ⟨second, written⟩ := writeChunk_cases queue id file (littleEndian 4 payload.length) first
    rcases written with ⟨headed, headedBytes, headedDone⟩ | ⟨halt, part, piece, outside, inside, bytes, cut⟩
    · simp only [headedDone]
      obtain ⟨third, written⟩ := writeChunk_cases queue id headed
        (littleEndian 4 (checksum32 payload).toNat) second
      rcases written with ⟨summed, summedBytes, summedDone⟩ | ⟨halt, part, piece, outside, inside, bytes, cut⟩
      · simp only [summedDone]
        obtain ⟨last, written⟩ := writeChunk_cases queue id summed payload third
        rcases written with ⟨full, fullBytes, done⟩ | ⟨halt, part, piece, outside, inside, bytes, cut⟩
        · refine ⟨last, Or.inl ⟨full, ?_, done⟩⟩
          rw [fullBytes, summedBytes, headedBytes, frame]
          simp
        · refine ⟨last, Or.inr ⟨halt, _, outside, Or.inr ⟨part, _,
            (List.prefix_append_right_inj _).mpr inside, ?_, rfl⟩, cut⟩⟩
          rw [bytes, summedBytes, headedBytes]
          simp
      · refine ⟨third, Or.inr ⟨halt, _, outside, Or.inr ⟨part, _,
          ((List.prefix_append_right_inj _).mpr inside).trans sum, ?_, rfl⟩, by simp only [cut]⟩⟩
        rw [bytes, headedBytes, List.append_assoc]
    · exact ⟨second, Or.inr ⟨halt, _, outside, Or.inr ⟨part, piece, inside.trans header, bytes, rfl⟩,
        by simp only [cut]⟩⟩
  · exact ⟨first, Or.inr ⟨halt, queue, outside, Or.inl rfl, by simp only [bind_apply, failed]⟩⟩

/-- The queue once the next segment has been numbered and its file has not been made. -/
def DiskQueue.turned (queue : DiskQueue) : DiskQueue :=
  { queue with activeSegmentId := queue.activeSegmentId + 1, activeSegmentBytes := 0 }

/-- What the file system can leave behind when it ends an `enqueue`. -/
inductive DiskQueue.Ended (queue : DiskQueue) (payload : Bytes) : DiskQueue → Prop where
  | turned (rotates : queue.rotates payload) (room : queue.activeSegmentId < u64Max) :
      Ended queue payload queue.turned
  | unopened (room : queue.rotates payload → queue.activeSegmentId < u64Max) :
      Ended queue payload (queue.rotated payload)
  | cut {later : DiskQueue} (room : queue.rotates payload → queue.activeSegmentId < u64Max)
      (written : (queue.rotated payload).Cut (queue.rotated payload).activeSegmentId payload later) :
      Ended queue payload later

theorem storeRecord_cases (queue : DiskQueue) (fsyncOnWrite : Bool) (payload : Bytes)
    (plan : List (Option Fault)) :
    ∃ rest, (∃ full : SegmentFile, full.bytes = queue.activeFile.bytes ++ frame payload ∧
        storeRecord fsyncOnWrite payload ⟨queue, plan⟩ = .ok () ⟨queue.appended payload full, rest⟩) ∨
      ∃ (halt : Halt) (later : DiskQueue), halt.Outside ∧
        (later = queue ∨ queue.Cut queue.activeSegmentId payload later) ∧
        storeRecord fsyncOnWrite payload ⟨queue, plan⟩ = .error halt ⟨later, rest⟩ := by
  obtain ⟨first, appended⟩ := appendRecord_cases queue queue.activeSegmentId payload plan
  rcases appended with ⟨full, bytes, done⟩ | ⟨halt, later, outside, left, failed⟩
  · cases fsyncOnWrite with
    | false =>
      refine ⟨first, Or.inl ⟨full, bytes, ?_⟩⟩
      simp only [storeRecord, bind_apply, getQueue_apply, done]
      rfl
    | true =>
      obtain ⟨rest, synced⟩ := call_cases id (queue.withFile queue.activeSegmentId full) first
      refine ⟨rest, ?_⟩
      rcases synced with synced | ⟨halt, outside, failed⟩
      · refine Or.inl ⟨full, bytes, ?_⟩
        simp only [storeRecord, bind_apply, getQueue_apply, done, if_true, probe, synced]
        rfl
      · -- the record is whole in the file, but not in the counters
        refine Or.inr ⟨halt, _, outside, Or.inr ⟨full, frame payload, List.prefix_rfl, bytes, rfl⟩, ?_⟩
        simp only [storeRecord, bind_apply, getQueue_apply, done, if_true, probe, failed]
  · exact ⟨first, Or.inr ⟨halt, later, outside, left, by
      simp only [storeRecord, bind_apply, getQueue_apply, failed]⟩⟩

/-- Everything `enqueue` can do under a plan. -/
inductive DiskQueue.Enqueues (queue : DiskQueue) (payload : Bytes) :
    EStateM.Result Halt Session Unit → Prop where
  | stored {full : SegmentFile} {rest : List (Option Fault)} (small : payload.length ≤ u32Max)
      (room : queue.rotates payload → queue.activeSegmentId < u64Max)
      (bytes : full.bytes = (queue.rotated payload).activeFile.bytes ++ frame payload) :
      Enqueues queue payload (.ok () ⟨(queue.rotated payload).appended payload full, rest⟩)
  | refused {error : DiskQueueError} {rest : List (Option Fault)} (own : error ≠ .io) :
      Enqueues queue payload (.error (.raised error) ⟨queue, rest⟩)
  | ended {halt : Halt} {later : DiskQueue} {rest : List (Option Fault)} (small : payload.length ≤ u32Max)
      (outside : halt.Outside) (left : queue.Ended payload later) :
      Enqueues queue payload (.error halt ⟨later, rest⟩)

theorem storeRecord_enqueues {queue : DiskQueue} {payload : Bytes} (small : payload.length ≤ u32Max)
    (room : queue.rotates payload → queue.activeSegmentId < u64Max) (fsyncOnWrite : Bool)
    (plan : List (Option Fault)) :
    queue.Enqueues payload (storeRecord fsyncOnWrite payload ⟨queue.rotated payload, plan⟩) := by
  obtain ⟨rest, stored⟩ := storeRecord_cases (queue.rotated payload) fsyncOnWrite payload plan
  rcases stored with ⟨full, bytes, done⟩ | ⟨halt, later, outside, left, failed⟩
  · rw [done]
    exact .stored small room bytes
  · rw [failed]
    apply DiskQueue.Enqueues.ended small outside
    rcases left with rfl | cut
    · exact .unopened room
    · exact .cut room cut

theorem enqueue_enqueues (queue : DiskQueue) (payload : Bytes) (plan : List (Option Fault)) :
    queue.Enqueues payload (enqueue payload ⟨queue, plan⟩) := by
  by_cases small : payload.length ≤ u32Max
  · by_cases rotates : queue.rotates payload
    · by_cases room : queue.activeSegmentId < u64Max
      · have turned : rotateSegment ⟨queue, plan⟩ =
            call (·.createSegment (queue.activeSegmentId + 1)) ⟨queue.turned, plan⟩ := by
          simp only [bind_apply, rotateSegment, getQueue_apply, room, if_true, modifyQueue_apply]
          rfl
        have fresh : ({ queue.turned with
            dir := queue.dir.createSegment (queue.activeSegmentId + 1) } : DiskQueue) =
            queue.rotated payload := by
          rw [DiskQueue.rotated, if_pos rotates]
          rfl
        rw [enqueue_small small, if_pos rotates, bind_apply, turned]
        obtain ⟨rest, created⟩ := call_cases (·.createSegment (queue.activeSegmentId + 1)) queue.turned plan
        rcases created with created | ⟨halt, outside, failed⟩
        · rw [created]
          change queue.Enqueues payload (storeRecord _ payload ⟨{ queue.turned with
            dir := queue.dir.createSegment (queue.activeSegmentId + 1) }, rest⟩)
          rw [fresh]
          exact storeRecord_enqueues small (fun _ => room) _ rest
        · rw [failed]
          exact .ended small outside (.turned rotates room)
      · rw [enqueue_overflow small rotates room]
        exact .refused (by simp)
    · have same : queue.rotated payload = queue := if_neg rotates
      have stored := storeRecord_enqueues small (fun turning => absurd turning rotates)
        queue.options.fsyncOnWrite plan
      rw [same] at stored
      rw [enqueue_small small, if_neg rotates]
      exact stored
  · rw [enqueue_large small]
    exact .refused (by simp)

end TelemetryFabric.Buffer
