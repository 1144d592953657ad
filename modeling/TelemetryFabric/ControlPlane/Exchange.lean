import TelemetryFabric.ControlPlane.ClientErrors
import TelemetryFabric.ControlPlane.Wire

/-!
The exchange of a request and a response between an agent and the control plane. What the agent makes
of the bytes that come back is what the service has answered to the request that the agent meant.
-/

namespace TelemetryFabric.ControlPlane
open Library Library.JsonText

/-! ### Texts -/

def IsUtf8 (bytes : Bytes) : Prop := ∃ text, bytes = utf8 text

theorem IsUtf8.append {first second : Bytes} (left : IsUtf8 first) (right : IsUtf8 second) : IsUtf8 (first ++ second) := by
  obtain ⟨text, rfl⟩ := left
  obtain ⟨more, rfl⟩ := right
  exact ⟨text ++ more, (utf8_append text more).symm⟩

theorem IsUtf8.cons {c : Char} (ascii : isAscii c = true) {rest : Bytes} (text : IsUtf8 rest) :
    IsUtf8 (UInt8.ofNat c.toNat :: rest) := by
  have single : IsUtf8 [UInt8.ofNat c.toNat] := by
    refine ⟨String.ofList [c], ?_⟩
    rw [utf8_of_ascii (by simpa using ascii)]
    rfl
  exact single.append text

theorem isUtf8_nil : IsUtf8 [] := ⟨"", rfl⟩

theorem isUtf8_intercalate {parts : List Bytes} (each : ∀ part ∈ parts, IsUtf8 part) :
    IsUtf8 ([0x2c].intercalate parts) := by
  induction parts with
  | nil => exact isUtf8_nil
  | cons part rest ih =>
    have onward := ih fun other member => each other (List.mem_cons_of_mem _ member)
    cases rest with
    | nil =>
      rw [List.intercalate_singleton]
      exact each part List.mem_cons_self
    | cons next rest =>
      rw [List.intercalate_cons_cons]
      exact ((each part List.mem_cons_self).append (IsUtf8.cons (c := ',') rfl isUtf8_nil)).append onward

namespace Json

section Encode

variable {F : Type} (showFloat : F → String)

theorem isUtf8_encodeString (value : String) : IsUtf8 (encodeString value) :=
  IsUtf8.cons (c := '"') rfl (IsUtf8.append ⟨escape value, rfl⟩ (IsUtf8.cons (c := '"') rfl isUtf8_nil))

mutual

/-- What is encoded is text. -/
theorem isUtf8_encodeValue : ∀ value : Encodable F, IsUtf8 (encodeValue showFloat value)
  | .nil => ⟨"null", rfl⟩
  | .boolean true => ⟨"true", rfl⟩
  | .boolean false => ⟨"false", rfl⟩
  | .integer value => ⟨String.ofList (decimalInt value), rfl⟩
  | .float value => ⟨showFloat value, rfl⟩
  | .string text => isUtf8_encodeString text
  | .atom name => isUtf8_encodeString name
  | .list items => by
      have each := isUtf8_encodeItems items
      rw [encodeValue]
      exact IsUtf8.cons (c := '[') rfl ((isUtf8_intercalate each).append (IsUtf8.cons (c := ']') rfl isUtf8_nil))
  | .map entries => by
      have each := isUtf8_encodeEntries entries
      rw [encodeValue]
      apply IsUtf8.cons (c := '{') rfl
      apply IsUtf8.append _ (IsUtf8.cons (c := '}') rfl isUtf8_nil)
      apply isUtf8_intercalate
      intro part member
      obtain ⟨entry, inside, rfl⟩ := List.mem_map.mp member
      exact each entry (List.mem_mergeSort.mp inside)

theorem isUtf8_encodeItems : ∀ items : List (Encodable F), ∀ part ∈ encodeItems showFloat items, IsUtf8 part
  | [] => fun part member => absurd member List.not_mem_nil
  | item :: rest => by
      intro part member
      rw [encodeItems, List.mem_cons] at member
      rcases member with rfl | later
      · exact isUtf8_encodeValue item
      · exact isUtf8_encodeItems rest part later

theorem isUtf8_encodeEntries : ∀ entries : List (MapKey × Encodable F), ∀ entry ∈ encodeEntries showFloat entries, IsUtf8 entry.2
  | [] => fun entry member => absurd member List.not_mem_nil
  | (key, item) :: rest => by
      intro entry member
      rw [encodeEntries, List.mem_cons] at member
      rcases member with rfl | later
      · exact (isUtf8_encodeString key.text).append (IsUtf8.cons (c := ':') rfl (isUtf8_encodeValue item))
      · exact isUtf8_encodeEntries rest entry later

end

end Encode

end Json

namespace JsonRequest

/-! ### What is answered to a request that is posted -/

section Answers

variable {F : Type}

/-- A status that is written with three digits, and a text. -/
structure Response.Plain (response : Response) : Prop where
  status : response.status ≤ 500
  text : IsUtf8 response.body

theorem plain_response (runtime : Runtime F) {status : Nat} (small : status ≤ 500) (body : Encodable F) :
    Response.Plain (response runtime status body) :=
  ⟨small, Json.isUtf8_encodeValue runtime.showFloat body⟩

theorem plain_errorResponse (runtime : Runtime F) (error : RequestError F) : Response.Plain (errorResponse runtime error) := by
  cases error <;> exact plain_response runtime (by decide) _

theorem plain_answer [DecidableEq F] (runtime : Runtime F) {stores : Type}
    {result : EStateM.Result (Failure F) stores (Encodable F)} {response : Response}
    (answered : (answer runtime result).1 = some response) : Response.Plain response := by
  cases result with
  | ok body stores =>
    cases answered
    exact plain_response runtime (by decide) body
  | error failure stores =>
    cases failure with
    | refused error =>
      cases answered
      exact plain_errorResponse runtime error
    | raised exception =>
      cases answered
      apply plain_response
      split_ifs <;> decide
    | exited => cases answered

variable [DecidableEq F] (server : Server F)

theorem plain_of_post {path : Binary} {headerLines : List Binary} {body : Bytes} {stores : Stores server.enumerate}
    {response : Response}
    (answered : (routeRequestSafely server (httpRequest server.text (utf8 "POST") path headerLines) body stores).1 =
      some response) : Response.Plain response := by
  unfold routeRequestSafely at answered
  cases routed : routeRequest server.text (httpRequest server.text (utf8 "POST") path headerLines) server.security
      server.rateLimit server.count with
  | refused refusal =>
    rw [routed] at answered
    cases answered
    have status := (routeRequest_status routed).2
    exact plain_response server.toRuntime (by omega) _
  | handled handler =>
    obtain ⟨service, served⟩ := service_of_post routed server.toRuntime
    rw [routed] at answered
    simp only [served] at answered
    exact plain_answer server.toRuntime answered

end Answers

/-! ### The response as it is read -/

theorem toList_showNat (value : Nat) : (showNat value).toList = decimal value := String.toList_ofList

def statusLine (status : Nat) : String := "HTTP/1.1 " ++ showNat status ++ " " ++ reason status

def responseLines (status : Nat) (contentType : String) (payload : String) (requestId : String) : List String :=
  [statusLine status, "Content-Type: " ++ contentType, "Content-Length: " ++ showNat (utf8 payload).length,
    "X-Request-Id: " ++ requestId, "Connection: close"]

theorem noBreak_reason (status : Nat) : '\r' ∉ (reason status).toList ∧ '\n' ∉ (reason status).toList := by
  unfold reason
  split <;> decide

theorem noBreak_statusLine (status : Nat) : '\r' ∉ (statusLine status).toList ∧ '\n' ∉ (statusLine status).toList := by
  have absent : ∀ c, c.isDigit = false → c ∉ "HTTP/1.1 ".toList → c ∉ " ".toList → c ∉ (reason status).toList →
      c ∉ (statusLine status).toList := by
    intro c noDigit version space reasonless member
    rw [statusLine, String.toList_append, String.toList_append, String.toList_append, List.mem_append, List.mem_append,
      List.mem_append, toList_showNat] at member
    rcases member with ((front | digits) | blank) | back
    · exact version front
    · rw [decimal_isDigit digits] at noDigit
      cases noDigit
    · exact space blank
    · exact reasonless back
  exact ⟨absent '\r' rfl (by decide) (by decide) (noBreak_reason status).1,
    absent '\n' rfl (by decide) (by decide) (noBreak_reason status).2⟩

theorem bytes_response (status : Nat) (contentType payload requestId : String) :
    (putRequestIdHeader (textResponse status contentType (utf8 payload)) (utf8 requestId)).bytes =
      utf8 (String.ofList (message '\r' '\n' ((responseLines status contentType payload requestId).map String.toList)
        payload.toList)) := by
  have back : ∀ text : String, utf8 (String.ofList text.toList) = utf8 text := fun text => congrArg utf8 String.ofList_toList
  rw [utf8_message]
  simp only [putRequestIdHeader, textResponse, Rendered.bytes, responseLines, statusLine, List.map_cons, List.map_nil,
    back, utf8_append]

theorem noReturn_base36 (value : Nat) : '\r' ∉ (base36 value).toList := by
  have digits : ∀ value : Fin 36, digit36 value ≠ '\r' := by decide
  have from_ : ∀ fuel value written, '\r' ∉ written → '\r' ∉ base36From fuel value written := by
    intro fuel
    induction fuel with
    | zero => exact fun _ _ absent => absent
    | succ fuel ih =>
      intro value written absent
      have next : '\r' ∉ digit36 (value % 36) :: written := by
        rw [List.mem_cons, not_or]
        exact ⟨(digits ⟨value % 36, Nat.mod_lt _ (by decide)⟩).symm, absent⟩
      rw [base36From]
      split_ifs
      · exact next
      · exact ih _ _ next
  rw [base36, String.toList_ofList]
  exact from_ _ _ _ List.not_mem_nil

theorem isLine_responseLines {contentType requestId : String} (plainType : '\r' ∉ contentType.toList)
    (plainId : '\r' ∉ requestId.toList) (status : Nat) (payload : String) :
    ∀ line ∈ (responseLines status contentType payload requestId).map String.toList, IsLine '\r' line := by
  have joined : ∀ first second : String, first ≠ "" → '\r' ∉ first.toList → '\r' ∉ second.toList →
      IsLine '\r' (first ++ second).toList := by
    intro first second given left right
    rw [String.toList_append]
    constructor
    · intro empty
      have front := (List.append_eq_nil_iff.mp empty).1
      exact given (String.toList_inj.mp front)
    · rw [List.mem_append]
      rintro (member | member)
      · exact left member
      · exact right member
  intro line member
  obtain ⟨text, listed, rfl⟩ := List.mem_map.mp member
  simp only [responseLines, List.mem_cons, List.not_mem_nil, or_false] at listed
  rcases listed with rfl | rfl | rfl | rfl | rfl
  · refine ⟨?_, (noBreak_statusLine status).1⟩
    intro empty
    rw [statusLine, String.toList_append, String.toList_append, String.toList_append] at empty
    have front := (List.append_eq_nil_iff.mp (List.append_eq_nil_iff.mp (List.append_eq_nil_iff.mp empty).1).1).1
    exact absurd front (by decide)
  · exact joined _ _ (by decide) (by decide) plainType
  · exact joined _ _ (by decide) (by decide) (noReturn_showNat _)
  · exact joined _ _ (by decide) (by decide) plainId
  · exact ⟨by decide, by decide⟩

/-- The first line is the one that is written. -/
theorem lines_of_lineEnd {line : List Char} (plain : '\n' ∉ line) (rest : List Char) :
    Agent.lines (line ++ '\r' :: '\n' :: rest) = line :: Agent.lines rest := by
  have walk : ∀ pending, Agent.linesFrom (line ++ '\r' :: '\n' :: rest) pending =
      Agent.linesFrom ('\r' :: '\n' :: rest) (pending ++ line) := by
    induction line with
    | nil =>
      intro pending
      rw [List.nil_append, List.append_nil]
    | cons c more ih =>
      intro pending
      have other : c ≠ '\n' := ne_of_mem_of_not_mem List.mem_cons_self plain
      rw [List.cons_append, Agent.linesFrom, if_neg other, ih fun member => plain (List.mem_cons_of_mem _ member),
        List.append_assoc, List.singleton_append]
  rw [Agent.lines, walk, List.nil_append, Agent.linesFrom, if_neg (by decide), Agent.linesFrom, if_pos rfl,
    List.getLast?_concat, if_pos rfl, List.dropLast_concat]
  rfl

theorem status_of_statusLine (status : Nat) :
    (splitWhitespace (statusLine status).toList)[1]? = some (decimal status) := by
  have version : "HTTP/1.1 ".toList = "HTTP/1.1".toList ++ [' '] := by decide
  have solid : "HTTP/1.1".toList.all (fun c => !isWhitespace c) = true := by decide
  have first : ∀ c ∈ "HTTP/1.1".toList, isWhitespace c = false := by
    intro c member
    have other := List.all_eq_true.mp solid c member
    rwa [Bool.not_eq_true'] at other
  have second : ∀ c ∈ decimal status, isWhitespace c = false := fun c member => not_whitespace_of_isDigit (decimal_isDigit member)
  have whole : (statusLine status).toList =
      "HTTP/1.1".toList ++ ' ' :: (decimal status ++ ' ' :: (reason status).toList) := by
    rw [statusLine, String.toList_append, String.toList_append, String.toList_append, toList_showNat, version]
    simp only [List.append_assoc, List.cons_append, List.nil_append]
    rfl
  rw [whole, splitWhitespace, wordsFrom_append _ _ _ first, List.nil_append, wordsFrom_space _ _ _ (by decide) (by decide),
    wordsFrom_append _ _ _ second, List.nil_append, wordsFrom_space _ _ _ (by decide) (decimal_ne_nil status)]
  rfl

/-- What the agent is to make of an answer. -/
def meant (fromStr : String → Except String Yaml) (response : Response) : Except Agent.ControlError Yaml :=
  match fromUtf8? response.body with
  | none => .error .utf8
  | some payload =>
      if 200 ≤ response.status ∧ response.status < 300 then (fromStr payload).mapError .yaml
      else .error (.control ("control endpoint returned HTTP " ++ showNat response.status ++ ": " ++ payload))

theorem readResponse_bytes (fromStr : String → Except String Yaml) {status : Nat} (small : status < 2 ^ 16)
    {contentType requestId : String} (plainType : '\r' ∉ contentType.toList) (plainId : '\r' ∉ requestId.toList)
    (payload : String) :
    Agent.readResponse fromStr (putRequestIdHeader (textResponse status contentType (utf8 payload)) (utf8 requestId)).bytes =
      meant fromStr ⟨status, utf8 payload⟩ := by
  have split := splitHead_message (show '\r' ≠ '\n' by decide) (show (responseLines status contentType payload
    requestId).map String.toList ≠ [] from List.cons_ne_nil _ _) (isLine_responseLines plainType plainId status payload) payload.toList
  rw [bytes_response, Agent.readResponse, fromUtf8?_utf8]
  simp only [Agent.parseHttpJsonResponse, String.toList_ofList, split]
  have first : ∃ rest, Agent.lines (Library.joinLines '\r' '\n' ((responseLines status contentType payload
      requestId).map String.toList)) = (statusLine status).toList :: rest :=
    ⟨_, lines_of_lineEnd (noBreak_statusLine status).2 _⟩
  obtain ⟨rest, lines⟩ := first
  simp only [lines, status_of_statusLine, parseUnsigned_decimal small, String.ofList_toList, meant, fromUtf8?_utf8]
  rfl

section Exchange

variable {F : Type} [DecidableEq F] (server : Server F) {endpoint : Agent.ControlEndpoint} {authToken : Option String}
  {path body head : String}

/-- Whatever the packets a request of an agent comes in, the service answers the request that is meant,
with the token that the agent was given, and the agent reads what the service has answered. -/
theorem exchange (documented : server.text.Documented) (plain : PlainRequest endpoint authToken path)
    (rendered : Agent.renderPostRequest endpoint authToken path body = .ok head) {maxBodyBytes : Nat}
    (short : (utf8 head).length ≤ maxHeaderBytes + 1) (small : (utf8 body).length ≤ maxBodyBytes)
    (faultMessage : RequestFault → String) (fromStr : String → Except String Yaml) (unique : Nat)
    (stores : Stores server.enumerate) :
    bearerToken server.text (agentRequest server.text endpoint authToken path body).headers = authToken.map utf8 ∧
      ∀ reads, Packets (utf8 head ++ utf8 body) reads →
        (handleClient server maxBodyBytes faultMessage unique reads stores).2 =
            (routeRequestSafely server (agentRequest server.text endpoint authToken path body) (utf8 body) stores).2 ∧
          (handleClient server maxBodyBytes faultMessage unique reads stores).1.map
              (fun rendered => Agent.readResponse fromStr rendered.bytes) =
            (routeRequestSafely server (agentRequest server.text endpoint authToken path body) (utf8 body) stores).1.map
              (meant fromStr) := by
  refine ⟨bearerToken_agentRequest documented plain, ?_⟩
  intro reads packets
  unfold handleClient
  rw [readRequest_agentRequest documented plain rendered short small packets]
  constructor
  · rfl
  · rw [Option.map_map]
    apply Option.map_congr
    intro response answered
    obtain ⟨status, payload, text⟩ := plain_of_post server answered
    have jsonType : contentTypeOf (agentRequest server.text endpoint authToken path body) = "application/json" := by
      unfold contentTypeOf
      apply if_neg
      intro metrics
      exact absurd metrics.1 (show utf8 "POST" ≠ utf8 "GET" by decide +kernel)
    have plainId : '\r' ∉ ("req-" ++ base36 unique).toList := by
      rw [String.toList_append, List.mem_append]
      intro member
      rcases member with front | digits
      · exact absurd front (by decide)
      · exact noReturn_base36 unique digits
    have read := readResponse_bytes fromStr (show response.status < 2 ^ 16 by omega)
      (show '\r' ∉ "application/json".toList by decide) plainId payload
    rw [← text] at read
    show Agent.readResponse fromStr (putRequestIdHeader (textResponse response.status
      (contentTypeOf (agentRequest server.text endpoint authToken path body)) response.body) (generateRequestId unique)).bytes = _
    rw [jsonType]
    exact read

def heartbeatHead : String := "POST /v1/agents/heartbeat HTTP/1.1\r\nHost: 127.0.0.1:4001\r\nContent-Type: application/json\r\n" ++
  "Content-Length: 32\r\nAuthorization: Bearer agent-token\r\nConnection: close\r\n\r\n"

def heartbeatOf : String := "\x7b\"agent_id\":\"a\",\"tenant_id\":\"t\"\x7d"

/-- A heartbeat of an unknown agent, in two packets. -/
theorem exchange_heartbeat :
    (handleClient plainServer defaultMaxBodyBytes (fun _ => "") 7
        [(utf8 heartbeatHead).take 20, (utf8 heartbeatHead).drop 20 ++ utf8 heartbeatOf] emptyStores).1.map
          (fun rendered => Agent.readResponse (fun _ => .ok .null) rendered.bytes) =
      some (.error (.control "control endpoint returned HTTP 404: \x7b\"error\":\"not_found\"\x7d")) := by
  have packets : Packets (utf8 heartbeatHead ++ utf8 heartbeatOf)
      [(utf8 heartbeatHead).take 20, (utf8 heartbeatHead).drop 20 ++ utf8 heartbeatOf] := by
    refine ⟨?_, by decide +kernel⟩
    rw [List.flatten_cons, List.flatten_singleton, ← List.append_assoc, List.take_append_drop]
  have rendered : Agent.renderPostRequest ⟨"127.0.0.1", 4001⟩ (some "agent-token") "/v1/agents/heartbeat" heartbeatOf =
      .ok heartbeatHead := by
    have text : "POST " ++ "/v1/agents/heartbeat" ++ " HTTP/1.1\r\nHost: " ++ "127.0.0.1" ++ ":" ++
        String.ofList (decimal (4001 : UInt16).toNat) ++ "\r\nContent-Type: application/json\r\nContent-Length: " ++
        String.ofList (decimal (utf8 heartbeatOf).length) ++ "\r\n" ++ ("Authorization: Bearer " ++ "agent-token" ++ "\r\n") ++
        "Connection: close\r\n\r\n" = heartbeatHead := by
      decide +kernel
    rw [← text]
    rfl
  have plain : PlainRequest ⟨"127.0.0.1", 4001⟩ (some "agent-token") "/v1/agents/heartbeat" := by
    refine ⟨by decide, by decide, by decide, ?_⟩
    intro token given
    cases given
    exact ⟨by decide, by decide +kernel⟩
  have answered : (routeRequestSafely plainServer (agentRequest plainServer.text ⟨"127.0.0.1", 4001⟩ (some "agent-token")
      "/v1/agents/heartbeat" heartbeatOf) (utf8 heartbeatOf) emptyStores).1.map (fun response => (response.status, response.body)) =
        some (404, utf8 "\x7b\"error\":\"not_found\"\x7d") := by
    decide +kernel
  obtain ⟨response, found, same⟩ := Option.map_eq_some_iff.mp answered
  have status : response.status = 404 := congrArg Prod.fst same
  have body : response.body = utf8 "\x7b\"error\":\"not_found\"\x7d" := congrArg Prod.snd same
  have both := (exchange plainServer plainText_documented plain rendered (by decide +kernel)
    (show (utf8 heartbeatOf).length ≤ defaultMaxBodyBytes by decide +kernel) (fun _ => "") (fun _ => .ok .null) 7
    emptyStores).2 _ packets
  rw [both.2, found, Option.map_some, meant, body, fromUtf8?_utf8]
  simp only []
  rw [status, if_neg (by decide)]
  have text : "control endpoint returned HTTP " ++ showNat 404 ++ ": " ++ "\x7b\"error\":\"not_found\"\x7d" =
      "control endpoint returned HTTP 404: \x7b\"error\":\"not_found\"\x7d" := by
    decide +kernel
  rw [text]

end Exchange

end JsonRequest

end TelemetryFabric.ControlPlane
