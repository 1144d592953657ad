import TelemetryFabric.Agent.HttpRequest
import TelemetryFabric.Agent.Receivers

/-!
What the OTLP/HTTP receiver answers. A connection carries one request; the handler reads it, hands
its records to the runtime and writes a response. How bodies are decoded and responses encoded is
left open.
-/

namespace TelemetryFabric.Agent
open Library TelemetryFabric.Core Buffer Processors Otlp

variable {E : Type}

/-- The bodies of the three services, as JSON or protobuf, and their responses that report no
partial success. -/
structure HttpCodec where
  traces : Bool → Bytes → Except String ExportTraceServiceRequest
  metrics : Bool → Bytes → Except String ExportMetricsServiceRequest
  logs : Bool → Bytes → Except String ExportLogsServiceRequest
  json : SignalKind → Except String Bytes
  protobuf : SignalKind → Bytes

structure HttpResponse where
  status : String
  contentType : String
  body : Bytes
  deriving DecidableEq

def OtlpHttpRequest.isJson (request : OtlpHttpRequest) : Bool :=
  match request.contentType with
  | none => false
  | some value =>
      toAsciiLowercase (String.ofList (trim (value.toList.takeWhile (· != ';')))) == "application/json"

/-- The signal behind a path. -/
def signalOf : String → Option SignalKind
  | "/v1/traces" => some .trace
  | "/v1/metrics" => some .metric
  | "/v1/logs" => some .log
  | _ => none

def decodeOtlpHttpBody (codec : HttpCodec) (request : OtlpHttpRequest) : SignalKind → Except String ExportRequest
  | .trace => (codec.traces request.isJson request.body).map .trace
  | .metric => (codec.metrics request.isJson request.body).map .metrics
  | .log => (codec.logs request.isJson request.body).map .logs

def encodeOtlpHttpResponse (codec : HttpCodec) (request : OtlpHttpRequest) (signal : SignalKind) :
    Except String (Bytes × String) :=
  if request.isJson then (codec.json signal).map fun body => (body, "application/json")
  else .ok (codec.protobuf signal, "application/x-protobuf")

/-- A response with a text. -/
def textResponse (status message : String) : HttpResponse := ⟨status, "text/plain", utf8 message⟩

/-- `handle_otlp_http`: the responses it has written when it returns, and what it returns. -/
def handleOtlpHttp (codec : HttpCodec) (doubles : DoubleText) (clock : Nat → BitVec 128) (tenantId : String)
    (reads : List Bytes) : AgentM E (List HttpResponse × Except AgentError Unit) :=
  match readOtlpHttpRequest reads with
  | .error message => return ([textResponse "400 Bad Request" message], .ok ())
  | .ok request =>
      if request.method ≠ "POST" then
        return ([textResponse "405 Method Not Allowed" "method must be POST"], .ok ())
      else match signalOf request.path with
        | none => return ([textResponse "404 Not Found" "unknown OTLP/HTTP signal path"], .ok ())
        | some signal =>
            match decodeOtlpHttpBody codec request signal with
            | .error message => return ([textResponse "400 Bad Request" message], .ok ())
            | .ok decoded => fun session =>
                -- the question mark behind ingest_records returns before there is a response
                match ingestRecords (decoded.records doubles clock tenantId) session with
                | .error (.raised error) later => .ok ([], .error error) later
                | .error halt later => .error halt later
                | .ok () later =>
                    match encodeOtlpHttpResponse codec request signal with
                    | .ok (body, contentType) => .ok ([⟨"200 OK", contentType, body⟩], .ok ()) later
                    | .error message => .ok ([textResponse "400 Bad Request" message], .ok ()) later

/-! ### Answers -/

section Answers

variable (codec : HttpCodec) (doubles : DoubleText) (clock : Nat → BitVec 128) (tenantId : String)

/-- The decoded body of a POST request for one of the signals. -/
def requested (reads : List Bytes) : Option ExportRequest :=
  match readOtlpHttpRequest reads with
  | .error _ => none
  | .ok request =>
      if request.method ≠ "POST" then none
      else (signalOf request.path).bind fun signal => (decodeOtlpHttpBody codec request signal).toOption

/-- The bytes are a request whose records the runtime ingests one after the other. -/
def AllIngested (reads : List Bytes) (session : AgentSession E) : Prop :=
  ∃ decoded, requested codec reads = some decoded ∧
    ∃ later, ingestRecords (decoded.records doubles clock tenantId) session = .ok () later

/-- The bytes are a request with a record that the runtime refuses to ingest. -/
def SomeRefused (reads : List Bytes) (session : AgentSession E) : Prop :=
  ∃ decoded, requested codec reads = some decoded ∧
    ∃ error later, ingestRecords (decoded.records doubles clock tenantId) session = .error (.raised error) later

/-- One response, which reports success for what has been ingested and for nothing else. -/
def AnsweredOnce (reads : List Bytes) (session : AgentSession E) (written : List HttpResponse) : Prop :=
  ∃ response, written = [response] ∧
    (response.status = "200 OK" ↔ AllIngested codec doubles clock tenantId reads session)

variable {codec doubles clock tenantId}

/-- Everything the handler can have written: one error for what is no request, nothing for a request
that is refused, and one success for one that is not. -/
theorem handled_cases (encodes : ∀ signal, ∃ body, codec.json signal = .ok body) {reads : List Bytes}
    {session later : AgentSession E} {written : List HttpResponse} {result : Except AgentError Unit}
    (handled : handleOtlpHttp codec doubles clock tenantId reads session = .ok (written, result) later) :
    (requested codec reads = none ∧ ∃ response, written = [response] ∧ response.status ≠ "200 OK") ∨
    (∃ decoded error, requested codec reads = some decoded ∧ written = [] ∧
      ingestRecords (decoded.records doubles clock tenantId) session = .error (.raised error) later) ∨
    (∃ decoded response, requested codec reads = some decoded ∧ written = [response] ∧
      response.status = "200 OK" ∧
      ingestRecords (decoded.records doubles clock tenantId) session = .ok () later) := by
  unfold handleOtlpHttp at handled
  unfold requested
  cases read : readOtlpHttpRequest reads with
  | error message =>
    rw [read] at handled
    cases handled
    exact Or.inl ⟨rfl, _, rfl, show "400 Bad Request" ≠ "200 OK" by decide⟩
  | ok request =>
    rw [read] at handled
    simp only at handled ⊢
    by_cases post : request.method ≠ "POST"
    · rw [if_pos post] at handled ⊢
      cases handled
      exact Or.inl ⟨rfl, _, rfl, by decide⟩
    · rw [if_neg post] at handled ⊢
      cases signal : signalOf request.path with
      | none =>
        rw [signal] at handled
        cases handled
        exact Or.inl ⟨rfl, _, rfl, by decide⟩
      | some kind =>
        rw [signal] at handled
        simp only [Option.bind_some] at handled ⊢
        cases decoding : decodeOtlpHttpBody codec request kind with
        | error message =>
          rw [decoding] at handled
          cases handled
          exact Or.inl ⟨rfl, _, rfl, show "400 Bad Request" ≠ "200 OK" by decide⟩
        | ok decoded =>
          rw [decoding] at handled
          simp only at handled
          cases ran : ingestRecords (decoded.records doubles clock tenantId) session with
          | error halt done =>
            rw [ran] at handled
            cases halt with
            | raised error =>
              cases handled
              exact Or.inr (Or.inl ⟨decoded, error, rfl, rfl, ran⟩)
            | panicked => cases handled
            | crashed => cases handled
            | unfinished => cases handled
          | ok value done =>
            rw [ran] at handled
            have encoded : ∃ body contentType, encodeOtlpHttpResponse codec request kind = .ok (body, contentType) := by
              unfold encodeOtlpHttpResponse
              obtain ⟨body, json⟩ := encodes kind
              split_ifs
              · exact ⟨body, "application/json", by rw [json]; rfl⟩
              · exact ⟨_, _, rfl⟩
            obtain ⟨body, contentType, response⟩ := encoded
            rw [response] at handled
            cases handled
            exact Or.inr (Or.inr ⟨decoded, _, rfl, rfl, rfl, ran⟩)

/-- Whatever bytes are read and whatever state the runtime is in: the handler has written one
response, and the right one, if and only if no record of the request is refused. -/
theorem answered_once_iff (encodes : ∀ signal, ∃ body, codec.json signal = .ok body) {reads : List Bytes}
    {session later : AgentSession E} {written : List HttpResponse} {result : Except AgentError Unit}
    (handled : handleOtlpHttp codec doubles clock tenantId reads session = .ok (written, result) later) :
    AnsweredOnce codec doubles clock tenantId reads session written ↔
      ¬ SomeRefused codec doubles clock tenantId reads session := by
  rcases handled_cases encodes handled with ⟨none, response, single, failed⟩ |
    ⟨decoded, error, found, nothing, refused⟩ | ⟨decoded, response, found, single, succeeded, ingested⟩
  · apply iff_of_true
    · refine ⟨response, single, iff_of_false failed ?_⟩
      intro ⟨other, found, _⟩
      rw [none] at found
      cases found
    · intro ⟨other, found, _⟩
      rw [none] at found
      cases found
  · apply iff_of_false
    · intro ⟨response, single, _⟩
      rw [nothing] at single
      cases single
    · intro accepted
      exact accepted ⟨decoded, found, error, later, refused⟩
  · apply iff_of_true
    · exact ⟨response, single, iff_of_true succeeded ⟨decoded, found, later, ingested⟩⟩
    · intro ⟨other, also, error, done, refused⟩
      rw [found] at also
      cases also
      rw [ingested] at refused
      cases refused

end Answers

/-- The two logs as protobuf. -/
def twoLogsBody : Bytes :=
  [10, 25, 18, 23, 18, 9, 42, 7, 10, 5] ++ utf8 "first" ++ [18, 10, 42, 8, 10, 6] ++ utf8 "second"

def twoLogsPost : Bytes := utf8 "POST /v1/logs HTTP/1.1\r\nContent-Length: 27\r\n\r\n" ++ twoLogsBody

/-- A codec that knows this body. -/
def twoLogsCodec : HttpCodec where
  traces _ _ := .error "failed to decode Protobuf message"
  metrics _ _ := .error "failed to decode Protobuf message"
  logs json body :=
    if json = false ∧ body = twoLogsBody then .ok ⟨[⟨none, [⟨none, [plainLog "first", plainLog "second"]⟩]⟩]⟩
    else .error "failed to decode Protobuf message"
  json _ := .ok (utf8 "\x7b\"partialSuccess\":null\x7d")
  protobuf _ := []

/-- What is written for the two logs, and whether the handler returned. -/
def twoLogsWritten (runtime : AgentRuntime Unit) : Option (List HttpResponse) :=
  match handleOtlpHttp twoLogsCodec .byBits (fun _ => 0) "tenant" [twoLogsPost] ⟨runtime, []⟩ with
  | .ok (written, _) _ => some written
  | .error _ _ => none

theorem handled_of_written {runtime : AgentRuntime Unit} {written : List HttpResponse}
    (shown : twoLogsWritten runtime = some written) : ∃ result later,
      handleOtlpHttp twoLogsCodec .byBits (fun _ => 0) "tenant" [twoLogsPost] ⟨runtime, []⟩ =
        .ok (written, result) later := by
  unfold twoLogsWritten at shown
  cases ran : handleOtlpHttp twoLogsCodec .byBits (fun _ => 0) "tenant" [twoLogsPost] ⟨runtime, []⟩ with
  | error halt later =>
    rw [ran] at shown
    cases shown
  | ok value later =>
    rw [ran] at shown
    obtain ⟨responses, result⟩ := value
    cases shown
    exact ⟨result, later, rfl⟩

theorem answered_once_twoLogs :
    AnsweredOnce twoLogsCodec .byBits (fun _ => 0) "tenant" [twoLogsPost] ⟨defaultRuntime, []⟩
      [⟨"200 OK", "application/x-protobuf", []⟩] := by
  have shown : twoLogsWritten defaultRuntime = some [⟨"200 OK", "application/x-protobuf", []⟩] := by
    decide +kernel
  obtain ⟨result, later, handled⟩ := handled_of_written shown
  have encodes : ∀ signal, ∃ body, twoLogsCodec.json signal = .ok body := fun _ => ⟨_, rfl⟩
  apply (answered_once_iff encodes handled).mpr
  intro ⟨decoded, found, error, done, refused⟩
  rcases handled_cases encodes handled with ⟨none, -⟩ | ⟨other, problem, same, nothing, -⟩ |
    ⟨other, response, same, -, -, ingested⟩
  · rw [none] at found
    cases found
  · cases nothing
  · rw [found] at same
    cases same
    rw [ingested] at refused
    cases refused

/-- The second log is too long for the runtime, and the connection ends without a response. -/
theorem refused_request_unanswered : ∃ result later,
    handleOtlpHttp twoLogsCodec .byBits (fun _ => 0) "tenant" [twoLogsPost] ⟨fiveBytesRuntime, []⟩ =
      .ok ([], result) later ∧
    ¬ AnsweredOnce twoLogsCodec .byBits (fun _ => 0) "tenant" [twoLogsPost] ⟨fiveBytesRuntime, []⟩ [] := by
  obtain ⟨result, later, handled⟩ := handled_of_written (show twoLogsWritten fiveBytesRuntime = some [] by decide +kernel)
  refine ⟨result, later, handled, ?_⟩
  intro ⟨response, single, _⟩
  cases single

end TelemetryFabric.Agent
