import TelemetryFabric.Agent.Shared
import TelemetryFabric.Buffer.Stream
import TelemetryFabric.Otlp.Receive

/-!
The OTLP receivers. A request is converted into records, which are ingested one by one under
the lock; the first one that is refused ends the request, and those before it stay queued.
-/

namespace TelemetryFabric.Agent
open Library TelemetryFabric.Core Buffer Processors Otlp

variable {E : Type}

/-! ### Requests -/

inductive ExportRequest where
  | trace (request : ExportTraceServiceRequest)
  | metrics (request : ExportMetricsServiceRequest)
  | logs (request : ExportLogsServiceRequest)

def ExportRequest.records (doubles : DoubleText) (clock : Nat → BitVec 128) (tenantId : String) :
    ExportRequest → List TelemetryRecord
  | .trace request => traceRequestToRecords doubles clock tenantId request
  | .metrics request => metricsRequestToRecords doubles clock tenantId request
  | .logs request => logsRequestToRecords doubles clock tenantId request

/-- The loop of `ingest_records` and of the three `export` methods. -/
def ingestRecords : List TelemetryRecord → AgentM E Unit
  | [] => pure ()
  | record :: rest => do
      ingest record
      ingestRecords rest

inductive Receiver where
  | grpc
  | http
  deriving DecidableEq, Repr

/-- What the call comes to for the client. A gRPC status carries the text of the error; the
HTTP handler returns the error and the connection ends without a response. -/
inductive Reply where
  | accepted
  | resourceExhausted (error : AgentError)
  | disconnected (error : AgentError)
  deriving DecidableEq, Repr

def Receiver.refusal : Receiver → AgentError → Reply
  | .grpc, error => .resourceExhausted error
  | .http, error => .disconnected error

/-- `export` of the gRPC services, and what `handle_otlp_http` does with a decoded body. -/
def Receiver.receive (receiver : Receiver) (doubles : DoubleText) (clock : Nat → BitVec 128)
    (tenantId : String) (request : ExportRequest) : AgentM E Reply := fun session =>
  match ingestRecords (request.records doubles clock tenantId) session with
  | .ok _ later => .ok .accepted later
  | .error (.raised error) later => .ok (receiver.refusal error) later
  | .error halt later => .error halt later

/-! ### What every operation of the queue keeps -/

/-- The operations keep it, whatever fails, and a queue has it when it is opened. -/
structure QueueInvariant (property : DiskQueue → Prop) : Prop where
  enqueue : ∀ payload, Retains property (Buffer.enqueue payload)
  readBatch : ∀ maxItems, Retains property (Buffer.readBatch maxItems)
  commitBatch : ∀ batch, Retains property (Buffer.commitBatch batch)
  openDir : ∀ dir options, property (.openDir dir options)

namespace QueueInvariant

variable {property : DiskQueue → Prop}

theorem onQueue {α : Type} {action : QueueM α} (keeps : Retains property action) :
    Preserves (fun runtime => property runtime.queue) (onQueue action : AgentM E α) := by
  apply Preserves.onQueue
  intro runtime session holds
  have result := keeps session holds
  unfold Leaves at result
  cases ran : action session with
  | ok value later =>
    rw [ran] at result
    exact result
  | error halt later =>
    rw [ran] at result
    exact result

theorem ingest (invariant : QueueInvariant property) (record : TelemetryRecord) :
    Preserves (fun runtime => property runtime.queue) (ingest record : AgentM E Unit) := by
  have inner : Preserves (fun runtime => property runtime.queue) (ingestInner record : AgentM E Unit) := by
    refine .getRuntime fun runtime _ => .bind (.ofExcept _ _) fun _ => .bind (.ofExcept _ _)
      fun encoded => .bind (.ofExcept _ _) fun recordBytes => ?_
    simp only
    split_ifs
    · exact .bind (.fail _) fun _ => onQueue (invariant.enqueue _)
    · exact onQueue (invariant.enqueue _)
  exact .counting inner (fun _ _ holds => holds) fun _ holds => holds

theorem takeBatch (invariant : QueueInvariant property) (maxItems : Nat) (clock : Nat → Nat → Nat) :
    Preserves (fun runtime => property runtime.queue) (takeBatch maxItems clock :
      AgentM E (Option (PendingBatch × List TelemetryRecord) × FlushReport)) := by
  refine .bind (onQueue (invariant.readBatch maxItems)) fun batch => ?_
  simp only
  split_ifs
  · exact .bind (onQueue (invariant.commitBatch batch)) fun _ => .pure _
  · exact .getRuntime fun runtime _ => .bind (.modifyRuntime fun _ holds => holds) fun _ =>
      .bind (.ofExcept _ _) fun _ => .pure _

theorem completeFlush (invariant : QueueInvariant property) (flush : PreparedFlush E)
    (result : Except DiskQueueError FlushReport) :
    Preserves (fun runtime => property runtime.queue) (completeFlush flush result) := by
  have finish : Preserves (fun runtime => property runtime.queue) (commitFlush flush result) := by
    cases result with
    | ok exported => exact .bind (onQueue (invariant.commitBatch _)) fun _ => .pure _
    | error error => exact .fail _
  exact completeFlush_preserves finish (fun _ holds => holds) (fun _ _ holds => holds) fun _ holds => holds

theorem flush (invariant : QueueInvariant property) (maxItems : Nat) (clock : Nat → Nat → Nat)
    (respond : Responses) :
    Preserves (fun runtime => property runtime.queue) (flush maxItems clock respond : AgentM E FlushReport) := by
  have inner : Preserves (fun runtime => property runtime.queue)
      (flushInner maxItems clock respond : AgentM E FlushReport) := by
    refine .bind (invariant.takeBatch maxItems clock) fun ⟨found, report⟩ => ?_
    cases found with
    | none => exact .pure _
    | some work =>
      exact .getRuntime fun _ _ => .bind (.ofExcept _ _) fun _ =>
        .bind (onQueue (invariant.commitBatch _)) fun _ => .pure _
  refine .getRuntime fun runtime _ => ?_
  split_ifs
  · exact .pure _
  · exact .bind (.modifyRuntime fun _ holds => holds) fun _ =>
      .counting inner (fun _ _ holds => holds) fun _ holds => holds

theorem operation (invariant : QueueInvariant property) (operation : AgentOperation E) :
    operation.Preserves fun runtime => property runtime.queue := by
  cases operation with
  | ingest record plan => exact invariant.ingest record
  | reload config build =>
    change Preserves (fun runtime => property runtime.queue) (reloadConfig config build)
    refine .counting (.bind (.ofExcept _ _) fun _ => .bind (.ofExcept _ _) fun _ => .modifyRuntime ?_) ?_ ?_
    · exact fun _ holds => holds
    · exact fun _ _ holds => holds
    · exact fun _ holds => holds
  | pause =>
    change Preserves (fun runtime => property runtime.queue) pauseExports
    exact .modifyRuntime fun _ holds => holds
  | resume =>
    change Preserves (fun runtime => property runtime.queue) resumeExports
    exact .modifyRuntime fun _ holds => holds
  | prepare maxItems force clock plan =>
    exact prepareSharedFlush_preserves (invariant.takeBatch maxItems clock) force (fun _ holds => holds)
      (fun _ holds => holds) (fun _ _ holds => holds) fun _ holds => ⟨holds, holds⟩
  | deliver index respond => trivial
  | complete index plan => exact invariant.completeFlush
  | flush maxItems clock respond plan => exact invariant.flush maxItems clock respond
  | restart config options build =>
    intro dir runtime opened
    obtain ⟨-, exporters, -, rfl⟩ := openDir_eq_ok opened
    exact invariant.openDir dir options

end QueueInvariant

/-! ### Every state keeps its segments in order -/

/-- No segment is above the active one. -/
def Ordered (runtime : AgentRuntime E) : Prop := runtime.queue.Bounded 0

theorem bounded_invariant : QueueInvariant fun queue => queue.Bounded 0 where
  enqueue := enqueue_bounded 0
  readBatch := readBatch_retains (reads_bounded 0)
  commitBatch := commitBatch_retains (commits_bounded 0)
  openDir := openDir_bounded

/-- Whatever the directory held and whatever has failed since. -/
theorem AgentState.ordered_of_reaches {state : AgentState E} {config : PipelineConfig} {dir : Directory}
    {options : DiskQueueOptions} {build : ExporterConfig → Except ExporterError E} {runtime : AgentRuntime E}
    (opened : AgentRuntime.openDir config dir options build = .ok runtime)
    (reached : Reaches step (fun _ _ => True) (start runtime) state) : Ordered state.runtime := by
  refine reached.invariant ?_ fun {_ operation _} ordered _ taken =>
    step_preserves (bounded_invariant.operation operation) ordered taken
  obtain ⟨-, exporters, -, rfl⟩ := openDir_eq_ok opened
  exact openDir_bounded dir options

/-! ### What a request leaves in the queue -/

/-- The payloads are the encodings of the records. -/
def Encoded (records : List TelemetryRecord) (payloads : List Bytes) : Prop :=
  List.Forall₂ (fun record payload => record.encode = .ok payload) records payloads

/-- The queue has been given the payloads, in this order: they are at the end of the segment
files, and a reader that gets to their end finds them behind everything else. -/
structure Given (queue : DiskQueue) (payloads : List Bytes) (later : DiskQueue) : Prop where
  stream : later.stream = queue.stream ++ payloads.flatMap frame
  readable : queue.Legible → later.readable = queue.readable ++ payloads

/-- The payloads, and the record behind them cut short by the file system. -/
structure GivenPart (queue : DiskQueue) (payloads : List Bytes) (payload : Bytes) (later : DiskQueue) :
    Prop where
  stream : ∃ piece, piece <+: frame payload ∧ later.stream = queue.stream ++ payloads.flatMap frame ++ piece
  readable : queue.Legible → later.readable = queue.readable ++ payloads ∨
    later.readable = queue.readable ++ payloads ++ [payload]

theorem Given.nothing (queue : DiskQueue) : Given queue [] queue :=
  ⟨(List.append_nil _).symm, fun _ => (List.append_nil _).symm⟩

/-- An `ingest` under any plan: the record is given to the queue, refused without a trace, or
cut short by the file system. -/
theorem ingest_given (runtime : AgentRuntime E) (record : TelemetryRecord) (plan : List (Option Fault))
    (bounded : runtime.queue.Bounded 0) :
    match ingest record ⟨runtime, plan⟩ with
    | .ok _ later => ∃ payload, record.encode = .ok payload ∧
        Given runtime.queue [payload] later.runtime.queue ∧
        (runtime.queue.Legible → later.runtime.queue.Legible)
    | .error halt later => later.runtime.queue = runtime.queue ∨
        ((halt = .raised (.queue .io) ∨ halt = .crashed) ∧ ∃ payload, record.encode = .ok payload ∧
          GivenPart runtime.queue [] payload later.runtime.queue) := by
  rcases ingest_cases runtime record plan with ⟨payload, admissible⟩ | ⟨error, -, refused⟩
  · rw [ingest_admissible admissible]
    have result := enqueue_enqueues runtime.queue payload plan
    generalize outcome : enqueue payload ⟨runtime.queue, plan⟩ = done at result
    cases result with
    | stored small room bytes =>
      simp only [counting, onQueue, outcome]
      have stream : ((runtime.queue.rotated payload).appended payload _).stream = _ :=
        bounded.stream_written bytes rfl rfl
      refine ⟨payload, admissible.encoded, ⟨?_, ?_⟩, ?_⟩
      · rw [List.flatMap_singleton]
        exact stream
      · exact fun legible => legible.readable_enqueued small room bytes
      · exact fun legible => legible.enqueued small room bytes
    | refused own =>
      simp only [counting, onQueue, outcome]
      exact Or.inl rfl
    | ended small outside left =>
      have part : GivenPart runtime.queue [] payload _ :=
        ⟨by simpa using left.stream bounded, fun legible => by simpa using left.readable small legible⟩
      rcases outside with rfl | rfl
      · simp only [counting, onQueue, outcome]
        exact Or.inr ⟨by simp, payload, admissible.encoded, part⟩
      · simp only [counting, onQueue, outcome]
        exact Or.inr ⟨by simp, payload, admissible.encoded, part⟩
  · rw [refused]
    exact Or.inl rfl

theorem Given.cons {queue middle later : DiskQueue} {payload : Bytes} {payloads : List Bytes}
    (first : Given queue [payload] middle) (kept : queue.Legible → middle.Legible)
    (rest : Given middle payloads later) : Given queue (payload :: payloads) later := by
  refine ⟨?_, fun legible => ?_⟩
  · rw [rest.stream, first.stream]
    simp
  · rw [rest.readable (kept legible), first.readable legible]
    simp

theorem GivenPart.cons {queue middle later : DiskQueue} {payload cut : Bytes} {payloads : List Bytes}
    (first : Given queue [payload] middle) (kept : queue.Legible → middle.Legible)
    (rest : GivenPart middle payloads cut later) : GivenPart queue (payload :: payloads) cut later := by
  obtain ⟨piece, part, stream⟩ := rest.stream
  refine ⟨⟨piece, part, ?_⟩, fun legible => ?_⟩
  · rw [stream, first.stream]
    simp
  · have readable := rest.readable (kept legible)
    rw [first.readable legible] at readable
    simpa using readable

/-- The loop under any plan: everything before the record that ends it is in the queue. -/
theorem ingestRecords_given (records : List TelemetryRecord) (session : AgentSession E)
    (bounded : session.runtime.queue.Bounded 0) :
    match ingestRecords records session with
    | .ok _ later => ∃ payloads, Encoded records payloads ∧
        Given session.runtime.queue payloads later.runtime.queue
    | .error halt later => ∃ accepted rejected rest payloads middle,
        records = accepted ++ rejected :: rest ∧ Encoded accepted payloads ∧
        ingestRecords accepted session = .ok () middle ∧ ingest rejected middle = .error halt later ∧
        (Given session.runtime.queue payloads later.runtime.queue ∨
          ((halt = .raised (.queue .io) ∨ halt = .crashed) ∧ ∃ payload, rejected.encode = .ok payload ∧
            GivenPart session.runtime.queue payloads payload later.runtime.queue)) := by
  induction records generalizing session with
  | nil => exact ⟨[], .nil, .nothing _⟩
  | cons record rest ih =>
    have one := ingest_given session.runtime record session.plan bounded
    simp only [ingestRecords, bind_session]
    cases ran : ingest record session with
    | error halt later =>
      rw [show ingest record ⟨session.runtime, session.plan⟩ = _ from ran] at one
      refine ⟨[], record, rest, [], session, rfl, .nil, rfl, ran, ?_⟩
      rcases one with unchanged | cut
      · left
        rw [unchanged]
        exact .nothing _
      · exact Or.inr cut
    | ok value middle =>
      rw [show ingest record ⟨session.runtime, session.plan⟩ = _ from ran] at one
      obtain ⟨payload, encoded, given, kept⟩ := one
      have others := ih middle ((bounded_invariant.ingest record).of_ok bounded ran)
      simp only
      cases looped : ingestRecords rest middle with
      | ok done later =>
        rw [looped] at others
        obtain ⟨payloads, all, more⟩ := others
        exact ⟨payload :: payloads, .cons encoded all, given.cons kept more⟩
      | error halt later =>
        rw [looped] at others
        obtain ⟨accepted, rejected, remaining, payloads, reached, split, all, before, refused, left⟩ := others
        refine ⟨record :: accepted, rejected, remaining, payload :: payloads, reached, by rw [split]; rfl,
          .cons encoded all, ?_, refused, ?_⟩
        · rw [ingestRecords, bind_session, ran]
          exact before
        · rcases left with more | ⟨outside, cut, written, part⟩
          · exact Or.inl (given.cons kept more)
          · exact Or.inr ⟨outside, cut, written, .cons given kept part⟩

theorem receive_accepted {receiver : Receiver} {doubles : DoubleText} {clock : Nat → BitVec 128}
    {tenantId : String} {request : ExportRequest} {session later : AgentSession E}
    (received : receiver.receive doubles clock tenantId request session = .ok .accepted later) :
    ingestRecords (request.records doubles clock tenantId) session = .ok () later := by
  unfold Receiver.receive at received
  cases ran : ingestRecords (request.records doubles clock tenantId) session with
  | ok value done =>
    rw [ran] at received
    cases received
    rfl
  | error halt done =>
    rw [ran] at received
    cases halt <;> cases receiver <;> cases received

theorem receive_refused {receiver : Receiver} {doubles : DoubleText} {clock : Nat → BitVec 128}
    {tenantId : String} {request : ExportRequest} {session later : AgentSession E} {error : AgentError}
    (received : receiver.receive doubles clock tenantId request session = .ok (receiver.refusal error) later) :
    ingestRecords (request.records doubles clock tenantId) session = .error (.raised error) later := by
  unfold Receiver.receive at received
  cases ran : ingestRecords (request.records doubles clock tenantId) session with
  | ok value done =>
    rw [ran] at received
    cases receiver <;> cases received
  | error halt done =>
    rw [ran] at received
    cases halt <;> cases receiver <;> cases received <;> rfl

/-- In every state, after any failures, and with any failures during the request: an accepted
request has been queued whole, and one that reports an error has left the records before the
first rejected one in the queue, in order. Of the rejected record there is nothing, or, where
the file system has ended its append, at most a prefix. -/
theorem request_kept_before_rejection {config : PipelineConfig} {dir : Directory}
    {options : DiskQueueOptions} {build : ExporterConfig → Except ExporterError E} {runtime : AgentRuntime E}
    (opened : AgentRuntime.openDir config dir options build = .ok runtime) {state : AgentState E}
    (reached : Reaches AgentState.step (fun _ _ => True) (AgentState.start runtime) state)
    (receiver : Receiver) (doubles : DoubleText) (clock : Nat → BitVec 128) (tenantId : String)
    (request : ExportRequest) (plan : List (Option Fault)) :
    (∀ later, receiver.receive doubles clock tenantId request ⟨state.runtime, plan⟩ = .ok .accepted later →
      ∃ payloads, Encoded (request.records doubles clock tenantId) payloads ∧
        Given state.runtime.queue payloads later.runtime.queue) ∧
    (∀ error later,
      receiver.receive doubles clock tenantId request ⟨state.runtime, plan⟩ = .ok (receiver.refusal error) later →
      ∃ accepted rejected rest payloads middle,
        request.records doubles clock tenantId = accepted ++ rejected :: rest ∧ Encoded accepted payloads ∧
        ingestRecords accepted ⟨state.runtime, plan⟩ = .ok () middle ∧
        ingest rejected middle = .error (.raised error) later ∧
        (Given state.runtime.queue payloads later.runtime.queue ∨
          (error = .queue .io ∧ ∃ payload, rejected.encode = .ok payload ∧
            GivenPart state.runtime.queue payloads payload later.runtime.queue))) := by
  have looped := ingestRecords_given (request.records doubles clock tenantId) ⟨state.runtime, plan⟩
    (AgentState.ordered_of_reaches opened reached)
  refine ⟨fun later received => ?_, fun error later received => ?_⟩
  · rw [receive_accepted received] at looped
    exact looped
  · rw [receive_refused received] at looped
    obtain ⟨accepted, rejected, rest, payloads, middle, split, encoded, before, refused, left⟩ := looped
    exact ⟨accepted, rejected, rest, payloads, middle, split, encoded, before, refused,
      left.imp_right fun ⟨outside, cut⟩ => ⟨by simpa using outside, cut⟩⟩

/-- A log record that has nothing but a body. -/
def plainLog (body : String) : LogRecord where
  timeUnixNano := 0
  observedTimeUnixNano := 0
  severityNumber := 0
  severityText := ""
  body := some (.stringValue body)
  attributes := []
  flags := 0
  traceId := []
  spanId := []
  eventName := ""

def twoLogs : ExportRequest := .logs ⟨[⟨none, [⟨none, [plainLog "first", plainLog "second"]⟩]⟩]⟩

/-- Records of up to five bytes: the first log passes, the second one does not. -/
def fiveBytes : PipelineConfig :=
  { PipelineConfig.default with limits := { TenantLimits.default with maxRecordBytes := 5 } }

def fiveBytesRuntime : AgentRuntime Unit :=
  ⟨fiveBytes, .openDir (.fresh "queue") ⟨1000, false⟩, .fromConfig fiveBytes,
    OrderedMap.empty.insert "stdout" (), .default, false, 0, false⟩

theorem fiveBytesRuntime_opened :
    AgentRuntime.openDir fiveBytes (.fresh "queue") ⟨1000, false⟩ (fun _ => .ok ()) = .ok fiveBytesRuntime := by
  have valid : fiveBytes.validate = .ok () := by decide +kernel
  unfold AgentRuntime.openDir
  rw [valid]
  rfl

/-- The two logs, sent to the runtime, and what the client and a reader of the queue see. -/
def twoLogsSent (receiver : Receiver) : Option (Reply × List Bytes) :=
  match receiver.receive .byBits (fun _ => 0) "tenant" twoLogs ⟨fiveBytesRuntime, []⟩ with
  | .ok reply later => some (reply, later.runtime.queue.readable)
  | .error _ _ => none

/-- Both receivers report an error for a request whose first record stays in the queue, for
the retry to put there again. -/
theorem refused_request_partly_queued :
    AgentRuntime.openDir fiveBytes (.fresh "queue") ⟨1000, false⟩ (fun _ => .ok ()) = .ok fiveBytesRuntime ∧
    fiveBytesRuntime.queue.readable = [] ∧
    (∃ payload, twoLogsSent .grpc = some (.resourceExhausted (.telemetry (.payloadTooLarge 6)), [payload])) ∧
    ∃ payload, twoLogsSent .http = some (.disconnected (.telemetry (.payloadTooLarge 6)), [payload]) := by
  refine ⟨fiveBytesRuntime_opened, by decide +kernel, ?_, ?_⟩
  · exact ⟨((twoLogsSent .grpc).map fun sent => sent.2.headD []).getD [], by decide +kernel⟩
  · exact ⟨((twoLogsSent .http).map fun sent => sent.2.headD []).getD [], by decide +kernel⟩

theorem request_kept_before_rejection_twoLogs :
    ∃ later accepted rejected rest payloads,
      Receiver.grpc.receive .byBits (fun _ => 0) "tenant" twoLogs ⟨fiveBytesRuntime, []⟩ =
        .ok (.resourceExhausted (.telemetry (.payloadTooLarge 6))) later ∧
      twoLogs.records .byBits (fun _ => 0) "tenant" = accepted ++ rejected :: rest ∧
      Encoded accepted payloads ∧ Given fiveBytesRuntime.queue payloads later.runtime.queue := by
  obtain ⟨reply, later, ran⟩ := eq_ok_of_returned (show returned (Receiver.grpc.receive .byBits (fun _ => 0)
    "tenant" twoLogs ⟨fiveBytesRuntime, []⟩) = true by decide +kernel)
  have shown : (twoLogsSent .grpc).map Prod.fst = some (.resourceExhausted (.telemetry (.payloadTooLarge 6))) := by
    decide +kernel
  have refused : reply = .resourceExhausted (.telemetry (.payloadTooLarge 6)) := by
    have sent : twoLogsSent .grpc = some (reply, later.runtime.queue.readable) := by
      unfold twoLogsSent
      simp only [ran]
    rw [sent] at shown
    exact Option.some.inj shown
  have kept := (request_kept_before_rejection fiveBytesRuntime_opened .here .grpc .byBits (fun _ => 0) "tenant"
    twoLogs []).2 _ later (refused ▸ ran)
  obtain ⟨accepted, rejected, rest, payloads, middle, split, encoded, -, -, left⟩ := kept
  rcases left with given | ⟨io, -⟩
  · exact ⟨later, accepted, rejected, rest, payloads, refused ▸ ran, split, encoded, given⟩
  · cases io

end TelemetryFabric.Agent
