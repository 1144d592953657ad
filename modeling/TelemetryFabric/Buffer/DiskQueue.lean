import TelemetryFabric.Buffer.Directory

/-!
The segmented disk queue. Every operation runs in `QueueM`, which carries the queue
together with a plan for the file-system calls still to come: a call succeeds, fails
with an error the queue returns to its caller, or takes the process down. A write may
be cut short by the latter two. With an empty plan all calls succeed.
-/

namespace TelemetryFabric.Buffer
open Library

inductive DiskQueueError where
  | io
  | corruptSegment (message : String)
  | payloadTooLarge (size : Nat)
  | sink (message : String)
  deriving DecidableEq, Repr

structure DiskQueueOptions where
  maxSegmentBytes : Nat
  fsyncOnWrite : Bool
  deriving DecidableEq, Repr

inductive ReadStep where
  | record (payload : Bytes) (next : Cursor)
  | move (next : Cursor)
  | empty
  deriving DecidableEq, Repr

structure PendingBatch where
  payloads : List Bytes
  nextCursor : Cursor
  shouldCommit : Bool
  deriving DecidableEq, Repr

/-- `dir` holds the content of the directory the source keeps the path of. -/
structure DiskQueue where
  dir : Directory
  options : DiskQueueOptions
  activeSegmentId : Nat
  activeSegmentBytes : Nat
  queuedBytes : Nat
  cursor : Cursor
  deriving DecidableEq

/-- A failing file-system call. A write has put `written` bytes into its file by then. -/
inductive Fault where
  | error (written : Nat)
  | crash (written : Nat)
  deriving DecidableEq, Repr

structure Session where
  queue : DiskQueue
  plan : List (Option Fault)
  deriving DecidableEq

/-- Why an operation stopped: it returned `Err`, it panicked, the process died, or the loop
bound of the model ran out. -/
inductive Halt where
  | raised (error : DiskQueueError)
  | panicked
  | crashed
  | unfinished
  deriving DecidableEq, Repr

abbrev QueueM := EStateM Halt Session

/-! ### File-system calls -/

def getQueue : QueueM DiskQueue := fun session => .ok session.queue session

def modifyQueue (change : DiskQueue → DiskQueue) : QueueM Unit :=
  fun session => .ok () { session with queue := change session.queue }

def raise {α : Type} (error : DiskQueueError) : QueueM α := throw (.raised error)

def nextFault : QueueM (Option Fault) := fun session =>
  match session.plan with
  | [] => .ok none session
  | fault :: plan => .ok fault { session with plan }

/-- One file-system call with its effect on the directory. -/
def call (effect : Directory → Directory) : QueueM Unit := do
  match ← nextFault with
  | none => modifyQueue fun queue => { queue with dir := effect queue.dir }
  | some (.error _) => raise .io
  | some (.crash _) => throw .crashed

/-- A call that only reads: listing, metadata, open, seek, read, sync. -/
def probe : QueueM Unit := call id

/-- A write of `size` bytes; `effect count` is the directory once `count` bytes are
out, or nothing when the file cannot take them. -/
def write (size : Nat) (effect : Nat → Directory → Option Directory) : QueueM Unit := do
  let fault ← nextFault
  let count := match fault with
    | none => size
    | some (.error written) => min written size
    | some (.crash written) => min written size
  let dir := (← getQueue).dir
  match effect count dir with
  | none => raise .io
  | some written =>
      modifyQueue fun queue => { queue with dir := written }
      match fault with
      | none => pure ()
      | some (.error _) => raise .io
      | some (.crash _) => throw .crashed

/-! ### Operations -/

def storageBytesForPayload (payloadLen : Nat) : Except DiskQueueError Nat :=
  if payloadLen > u32Max then .error (.payloadTooLarge payloadLen)
  else .ok (recordHeaderLen + payloadLen)

def segmentIds : QueueM (List Nat) := do
  probe
  return (← getQueue).dir.segments.keys

def persistCursor (cursor : Cursor) : QueueM Unit := do
  let text := cursorText cursor
  write text.length fun count dir => some (dir.writeCursorTmp (text.take count))
  call Directory.renameCursorTmp

def DiskQueue.openDir (dir : Directory) (options : DiskQueueOptions) : DiskQueue :=
  let segments := dir.segments.keys
  let activeSegmentId := segments.max?.getD 1
  let dir := if (dir.segments.find? activeSegmentId).isSome then dir
    else dir.createSegment activeSegmentId
  let activeSegmentBytes := ((dir.segments.find? activeSegmentId).getD .empty).len
  let queuedBytes := totalSegmentBytes dir segments
  let cursor := (readCursor dir).getD ⟨segments.min?.getD activeSegmentId, 0⟩
  let dir := (dir.writeCursorTmp (cursorText cursor)).renameCursorTmp
  { dir, options, activeSegmentId, activeSegmentBytes, queuedBytes, cursor }

def nextSegmentAfter (current : Nat) : QueueM (Option Nat) := do
  return ((← segmentIds).filter (current < ·)).min?

def nextCursorAfter (current : Nat) : QueueM (Option Cursor) := do
  return (← nextSegmentAfter current).map fun segmentId => ⟨segmentId, 0⟩

def moveOrEmpty : Option Cursor → ReadStep
  | none => .empty
  | some cursor => .move cursor

def rotateSegment : QueueM Unit := do
  let active := (← getQueue).activeSegmentId
  if active < u64Max then
    modifyQueue fun queue => { queue with activeSegmentId := active + 1, activeSegmentBytes := 0 }
    call (·.createSegment (active + 1))
  else raise (.corruptSegment "segment id overflow")

/-- The open and the three writes of `enqueue`. -/
def appendRecord (id : Nat) (payload : Bytes) : QueueM Unit := do
  call (·.openSegment id)
  let header := littleEndian 4 payload.length
  write header.length fun count dir => dir.appendSegment? id (header.take count)
  let checksum := littleEndian 4 (checksum32 payload).toNat
  write checksum.length fun count dir => dir.appendSegment? id (checksum.take count)
  write payload.length fun count dir => dir.appendSegment? id (payload.take count)

def enqueue (payload : Bytes) : QueueM Unit := do
  match storageBytesForPayload payload.length with
  | .error error => raise error
  | .ok recordLen =>
      let queue ← getQueue
      if queue.activeSegmentBytes > 0 ∧
          queue.activeSegmentBytes + recordLen > queue.options.maxSegmentBytes then
        rotateSegment
      appendRecord (← getQueue).activeSegmentId payload
      if queue.options.fsyncOnWrite then probe
      modifyQueue fun queue => { queue with
        activeSegmentBytes := queue.activeSegmentBytes + recordLen
        queuedBytes := queue.queuedBytes + recordLen }

def quarantineSegment (segmentId : Nat) (reason : String) : QueueM Unit := do
  let dir := (← getQueue).dir
  match dir.segments.find? segmentId with
  | none => pure ()
  | some source =>
      probe
      match corruptSegmentSuffix dir segmentId with
      | none =>
          raise (.corruptSegment
            ("could not allocate quarantine path for " ++ segmentPath dir segmentId))
      | some suffix =>
          call (·.renameCorrupt segmentId suffix)
          modifyQueue fun queue => { queue with queuedBytes := queue.queuedBytes - source.len }
          let text := reason ++ "\n"
          write text.length fun count dir =>
            some (dir.writeReason segmentId suffix (String.ofList (text.toList.take count)))

def quarantineAndAdvance (segmentId : Nat) (reason : String) : QueueM ReadStep := do
  quarantineSegment segmentId reason
  if segmentId ≥ (← getQueue).activeSegmentId then
    if segmentId < u64Max then
      modifyQueue fun queue =>
        { queue with activeSegmentId := segmentId + 1, activeSegmentBytes := 0 }
      call (·.createSegment (segmentId + 1))
      return .move ⟨segmentId + 1, 0⟩
    else raise (.corruptSegment "segment id overflow")
  else
    return moveOrEmpty (← nextCursorAfter segmentId)

def readStepAt (cursor : Cursor) : QueueM ReadStep := do
  let queue ← getQueue
  match queue.dir.segments.find? cursor.segmentId with
  | none => return moveOrEmpty (← nextCursorAfter cursor.segmentId)
  | some file =>
      -- open, seek and the header's read_exact; the payload is read only behind a header
      probe
      probe
      probe
      match parseRecord (file.bytes.drop cursor.offset) with
      | .endOfFile =>
          if cursor.segmentId < queue.activeSegmentId then
            return moveOrEmpty (← nextCursorAfter cursor.segmentId)
          else return .empty
      | .truncated =>
          probe
          quarantineAndAdvance cursor.segmentId
            ("truncated record in segment " ++ toString cursor.segmentId ++
              " at offset " ++ toString cursor.offset)
      | .mismatch =>
          probe
          quarantineAndAdvance cursor.segmentId
            ("checksum mismatch in segment " ++ toString cursor.segmentId ++
              " at offset " ++ toString cursor.offset)
      | .record payload =>
          probe
          return .record payload
            ⟨cursor.segmentId, cursor.offset + recordHeaderLen + payload.length⟩

def removeSegments : List Nat → QueueM Unit
  | [] => pure ()
  | id :: rest => do
      match (← getQueue).dir.segments.find? id with
      | none => pure ()
      | some file =>
          probe
          call (·.removeSegment id)
          modifyQueue fun queue => { queue with queuedBytes := queue.queuedBytes - file.len }
      removeSegments rest

def removeSegmentsBefore (segmentId : Nat) : QueueM Unit := do
  removeSegments ((← segmentIds).filter (· < segmentId))

def commitCursor (cursor : Cursor) : QueueM Unit := do
  modifyQueue fun queue => { queue with cursor := cursor }
  removeSegmentsBefore cursor.segmentId
  persistCursor cursor

/-- The bound on `read_step_at` calls one `read_batch` or `drain` is given. -/
def DiskQueue.stepBound (queue : DiskQueue) (maxItems : Nat) : Nat :=
  maxItems + queue.dir.segments.entries.length + 2

def readLoop (maxItems : Nat) : Nat → Cursor → Cursor → Bool → List Bytes → QueueM PendingBatch
  | 0, _, _, _, _ => throw .unfinished
  | fuel + 1, cursor, finalCursor, shouldCommit, batch =>
      if batch.length < maxItems then do
        match ← readStepAt cursor with
        | .record payload next => readLoop maxItems fuel next next shouldCommit (batch ++ [payload])
        | .move next => readLoop maxItems fuel next next true batch
        | .empty => pure ⟨batch, finalCursor, shouldCommit⟩
      else pure ⟨batch, finalCursor, shouldCommit⟩

/-- A vector holds at most `isize::MAX` bytes, and a payload in it is a `Vec<u8>` of 24 bytes. -/
def maxBatchItems : Nat := (2 ^ 63 - 1) / 24

/-- `Vec::with_capacity` for the payloads of a batch. -/
def reserveBatch (maxItems : Nat) : QueueM Unit :=
  if maxItems ≤ maxBatchItems then pure () else throw .panicked

def readBatch (maxItems : Nat) : QueueM PendingBatch := do
  let queue ← getQueue
  if maxItems = 0 then return ⟨[], queue.cursor, false⟩
  else
    reserveBatch maxItems
    readLoop maxItems (queue.stepBound maxItems) queue.cursor queue.cursor false []

def commitBatch (batch : PendingBatch) : QueueM Nat := do
  if batch.payloads.length > 0 ∨ batch.shouldCommit then
    commitCursor batch.nextCursor
  return batch.payloads.length

/-- A sink closure with its captured state. -/
abbrev Sink (σ α : Type) := σ → α → Except DiskQueueError Unit × σ

/-- The loop of `drain`; a refusing sink ends it with the error the caller receives. -/
def drainLoop {σ : Type} (sink : Sink σ Bytes) (maxItems : Nat) :
    Nat → Nat → σ → QueueM (Except DiskQueueError Nat × σ)
  | 0, _, _ => throw .unfinished
  | fuel + 1, drained, captured =>
      if drained < maxItems then do
        match ← readStepAt (← getQueue).cursor with
        | .record payload next =>
            match sink captured payload with
            | (.error error, captured) => return (.error error, captured)
            | (.ok (), captured) =>
                commitCursor next
                drainLoop sink maxItems fuel (drained + 1) captured
        | .move next =>
            commitCursor next
            drainLoop sink maxItems fuel drained captured
        | .empty => return (.ok drained, captured)
      else return (.ok drained, captured)

def drain {σ : Type} (maxItems : Nat) (sink : Sink σ Bytes) (captured : σ) :
    QueueM (Except DiskQueueError Nat × σ) := do
  drainLoop sink maxItems ((← getQueue).stepBound maxItems) 0 captured

def drainBatch {σ : Type} (maxItems : Nat) (sink : Sink σ (List Bytes)) (captured : σ) :
    QueueM (Except DiskQueueError Nat × σ) := do
  let batch ← readBatch maxItems
  if batch.payloads.isEmpty then
    let _ ← commitBatch batch
    return (.ok 0, captured)
  else
    match sink captured batch.payloads with
    | (.error error, captured) => return (.error error, captured)
    | (.ok (), captured) => return (.ok (← commitBatch batch), captured)

end TelemetryFabric.Buffer
