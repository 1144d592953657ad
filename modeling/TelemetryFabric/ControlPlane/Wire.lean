import TelemetryFabric.Agent.ControlRequests
import TelemetryFabric.ControlPlane.AgentBodies
import TelemetryFabric.ControlPlane.RequestReading

/-!
A request of an agent on its way to the control plane and the response on its way back. The control
plane reads what the agent meant to send, in whatever packets it comes, and the agent reads the status
and the payload that the control plane meant to answer.
-/

namespace TelemetryFabric.ControlPlane
open Library Library.JsonText

/-! ### Text functions -/

/-- Printable ASCII other than the space. -/
def isSolidByte (byte : UInt8) : Bool := 0x21 ≤ byte && byte ≤ 0x7e

def endsSolid (value : Binary) : Bool := value.head?.all isSolidByte && value.getLast?.all isSolidByte

def lowerByte (byte : UInt8) : UInt8 := if 65 ≤ byte ∧ byte ≤ 90 then byte + 32 else byte

/-- What `String.trim` and `String.downcase` do with ASCII at the ends of a text, and with ASCII. -/
structure TextFunctions.Documented (text : TextFunctions) : Prop where
  trim_solid : ∀ value, endsSolid value = true → text.trim value = value
  trim_blank : ∀ value, endsSolid value = true → text.trim (32 :: value) = value
  downcase_ascii : ∀ value, (∀ byte ∈ value, byte < 128) → text.downcase value = value.map lowerByte

theorem endsSolid_of_all {value : Binary} (solid : ∀ byte ∈ value, isSolidByte byte = true) : endsSolid value = true := by
  unfold endsSolid
  rw [Bool.and_eq_true]
  constructor
  · cases first : value.head? with
    | none => rfl
    | some byte => exact solid byte (List.mem_of_mem_head? first)
  · cases last : value.getLast? with
    | none => rfl
    | some byte => exact solid byte (List.mem_of_getLast? last)

theorem plainText_documented : plainText.Documented := by
  have stays : ∀ {value : Binary}, endsSolid value = true →
      value.dropWhile (· == 32) = value ∧ value.reverse.dropWhile (· == 32) = value.reverse := by
    intro value solid
    unfold endsSolid at solid
    rw [Bool.and_eq_true] at solid
    have other : ∀ byte, isSolidByte byte = true → ¬ (byte == 32) = true := by
      intro byte printable same
      rw [eq_of_beq same] at printable
      cases printable
    constructor
    · cases value with
      | nil => rfl
      | cons byte rest => exact List.dropWhile_cons_of_neg (other byte solid.1)
    · cases back : value.reverse with
      | nil => rfl
      | cons byte rest =>
        have last : value.getLast? = some byte := by
          rw [List.getLast?_eq_head?_reverse, back]
          rfl
        rw [last] at solid
        exact List.dropWhile_cons_of_neg (other byte solid.2)
  refine ⟨?_, ?_, ?_⟩
  · intro value solid
    change ((value.dropWhile (· == 32)).reverse.dropWhile (· == 32)).reverse = value
    rw [(stays solid).1, (stays solid).2, List.reverse_reverse]
  · intro value solid
    change (((32 :: value).dropWhile (· == 32)).reverse.dropWhile (· == 32)).reverse = value
    have blank : (32 :: value : Binary).dropWhile (· == 32) = value.dropWhile (· == 32) := List.dropWhile_cons_of_pos rfl
    rw [blank, (stays solid).1, (stays solid).2, List.reverse_reverse]
  · intro value _
    rfl

/-! ### Headers -/

def headerLine (name value : String) : String := name ++ ": " ++ value

theorem utf8_headerLine (name value : String) : utf8 (headerLine name value) = utf8 name ++ 58 :: 32 :: utf8 value := by
  have separator : utf8 ": " = [58, 32] := by decide +kernel
  rw [headerLine, utf8_append, utf8_append, separator, List.append_assoc]
  rfl

theorem splitHeader_eq (line : Binary) : splitHeader line = cutAt 58 line := by
  unfold splitHeader cutAt
  cases line.dropWhile (· != 58) with
  | nil => rfl
  | cons separator value => rfl

theorem splitHeader_headerLine {name : String} (plain : ':' ∉ name.toList) (value : String) :
    splitHeader (utf8 (headerLine name value)) = some (utf8 name, 32 :: utf8 value) := by
  have absent : (58 : UInt8) ∉ utf8 name := fun member => plain ((mem_utf8_iff (show isAscii ':' = true by decide)).mp member)
  rw [utf8_headerLine, splitHeader_eq, cutAt_append absent]

/-- A header with the name it is looked up as. -/
structure HeaderField where
  name : String
  lower : String
  value : String

def HeaderField.line (field : HeaderField) : String := headerLine field.name field.value

structure HeaderField.Read (text : TextFunctions) (field : HeaderField) : Prop where
  plain : ':' ∉ field.name.toList
  lowered : text.downcase (text.trim (utf8 field.name)) = utf8 field.lower

section Headers

variable {text : TextFunctions}

theorem HeaderField.Read.of_documented (documented : text.Documented) {field : HeaderField}
    (plain : ':' ∉ field.name.toList) (solid : endsSolid (utf8 field.name) = true)
    (ascii : ∀ byte ∈ utf8 field.name, byte < 128) (lowered : (utf8 field.name).map lowerByte = utf8 field.lower) :
    field.Read text := by
  refine ⟨plain, ?_⟩
  rw [documented.trim_solid _ solid, documented.downcase_ascii _ ascii, lowered]

/-- The last field of a name is the one that counts. -/
theorem lastHeader_fields {fields : List HeaderField} (each : ∀ field ∈ fields, field.Read text) (wanted : String) :
    lastHeader text (fields.map fun field => utf8 field.line) (utf8 wanted) =
      (fields.reverse.find? fun field => field.lower == wanted).map fun field => text.trim (32 :: utf8 field.value) := by
  have backwards : ∀ field ∈ fields.reverse, field.Read text := fun field member => each field (List.mem_reverse.mp member)
  unfold lastHeader
  rw [← List.map_reverse]
  generalize fields.reverse = ordered at backwards ⊢
  induction ordered with
  | nil => rfl
  | cons field rest ih =>
    have read := backwards field List.mem_cons_self
    have onward := ih fun other member => backwards other (List.mem_cons_of_mem _ member)
    rw [List.map_cons, List.findSome?_cons, HeaderField.line, splitHeader_headerLine read.plain]
    simp only [read.lowered]
    rw [List.find?_cons]
    by_cases same : field.lower = wanted
    · rw [if_pos (congrArg utf8 same), beq_iff_eq.mpr same]
      rfl
    · rw [if_neg fun equal => same (utf8_injective equal), beq_eq_false_iff_ne.mpr same]
      exact onward

end Headers

/-! ### The request of an agent -/

def requestLine (path : String) : String := "POST " ++ path ++ " HTTP/1.1"

def requestFields (endpoint : Agent.ControlEndpoint) (authToken : Option String) (body : String) : List HeaderField :=
  ⟨"Host", "host", endpoint.host ++ ":" ++ JsonRequest.showNat endpoint.port.toNat⟩ ::
    ⟨"Content-Type", "content-type", "application/json"⟩ ::
    ⟨"Content-Length", "content-length", JsonRequest.showNat (utf8 body).length⟩ ::
    ((authToken.map fun token => (⟨"Authorization", "authorization", "Bearer " ++ token⟩ : HeaderField)).toList ++
      [⟨"Connection", "connection", "close"⟩])

def requestLines (endpoint : Agent.ControlEndpoint) (authToken : Option String) (path body : String) : List String :=
  requestLine path :: (requestFields endpoint authToken body).map HeaderField.line

/-- What the service needs of an endpoint, a path and a token to read a request as it is meant. -/
structure PlainRequest (endpoint : Agent.ControlEndpoint) (authToken : Option String) (path : String) : Prop where
  host : '\r' ∉ endpoint.host.toList
  noReturn : '\r' ∉ path.toList
  noSpace : ' ' ∉ path.toList
  token : ∀ token ∈ authToken, token ≠ "" ∧ endsSolid (utf8 token) = true

section Request

variable {endpoint : Agent.ControlEndpoint} {authToken : Option String} {path body head : String}

theorem noReturn_of_render (rendered : Agent.renderPostRequest endpoint authToken path body = .ok head) :
    ∀ token ∈ authToken, '\r' ∉ token.toList := by
  intro token given member
  rw [Option.mem_def] at given
  unfold Agent.renderPostRequest at rendered
  rw [given] at rendered
  have contained : (token.toList.contains '\r' || token.toList.contains '\n') = true := by
    rw [List.contains_iff_mem.mpr member, Bool.true_or]
  simp only [contained, if_true] at rendered
  cases rendered

theorem toList_of_render (rendered : Agent.renderPostRequest endpoint authToken path body = .ok head) :
    head.toList = message '\r' '\n' ((requestLines endpoint authToken path body).map String.toList) [] := by
  have literal : "\r\nContent-Type: application/json\r\nContent-Length: ".toList =
        '\r' :: '\n' :: ("Content-Type".toList ++ (": ".toList ++ ("application/json".toList ++
          '\r' :: '\n' :: ("Content-Length".toList ++ ": ".toList)))) ∧
      " HTTP/1.1\r\nHost: ".toList = " HTTP/1.1".toList ++ '\r' :: '\n' :: ("Host".toList ++ ": ".toList) ∧
      "\r\n".toList = ['\r', '\n'] ∧
      "Authorization: Bearer ".toList = "Authorization".toList ++ (": ".toList ++ "Bearer ".toList) ∧
      "Connection: close\r\n\r\n".toList =
        "Connection".toList ++ (": ".toList ++ ("close".toList ++ ['\r', '\n', '\r', '\n'])) := by
    decide +kernel
  obtain ⟨types, host, lineEnd, bearer, close⟩ := literal
  have lines : ∀ lines : List (List Char), message '\r' '\n' lines [] = lines.flatMap (· ++ ['\r', '\n']) ++ ['\r', '\n'] :=
    fun _ => rfl
  rw [lines]
  cases given : authToken with
  | none =>
    unfold Agent.renderPostRequest at rendered
    rw [given] at rendered
    simp only [Except.ok.injEq] at rendered
    rw [← rendered]
    simp only [String.toList_append, host, types, lineEnd, close, requestLines, requestLine, requestFields, JsonRequest.showNat,
      Option.map_none, Option.toList_none, List.nil_append, List.map_cons, List.map_nil, HeaderField.line, headerLine,
      List.flatMap_cons, List.flatMap_nil, List.append_assoc, List.cons_append, List.append_nil]
  | some token =>
    unfold Agent.renderPostRequest at rendered
    rw [given] at rendered
    simp only [] at rendered
    split_ifs at rendered
    cases rendered
    simp only [String.toList_append, host, types, lineEnd, bearer, close, requestLines, requestLine, requestFields, JsonRequest.showNat,
      Option.map_some, Option.toList_some, List.map_cons, List.map_nil, HeaderField.line, headerLine,
      List.flatMap_cons, List.flatMap_nil, List.append_assoc, List.cons_append, List.append_nil, List.nil_append]

theorem isLine_utf8 {line : String} (given : line ≠ "") (plain : '\r' ∉ line.toList) : IsLine 13 (utf8 line) := by
  constructor
  · intro empty
    exact given (utf8_injective empty)
  · intro member
    exact plain ((mem_utf8_iff (show isAscii '\r' = true by decide)).mp member)

theorem isLine_headerLine {name value : String} (plainName : '\r' ∉ name.toList) (plainValue : '\r' ∉ value.toList) :
    IsLine 13 (utf8 (headerLine name value)) := by
  apply isLine_utf8
  · intro empty
    have characters := congrArg String.toList empty
    rw [headerLine, String.toList_append, String.toList_append] at characters
    have middle := (List.append_eq_nil_iff.mp (List.append_eq_nil_iff.mp characters).1).2
    exact absurd middle (by decide)
  · rw [headerLine, String.toList_append, String.toList_append, List.mem_append, List.mem_append]
    intro member
    rcases member with (name | separator) | value
    · exact plainName name
    · exact absurd separator (by decide)
    · exact plainValue value

theorem noReturn_showNat (value : Nat) : '\r' ∉ (JsonRequest.showNat value).toList := by
  rw [JsonRequest.showNat, String.toList_ofList]
  intro member
  exact absurd (decimal_isDigit member) (by decide)

theorem isLine_requestLines (plain : PlainRequest endpoint authToken path)
    (rendered : Agent.renderPostRequest endpoint authToken path body = .ok head) :
    ∀ line ∈ (requestLines endpoint authToken path body).map utf8, IsLine 13 line := by
  intro line member
  obtain ⟨text, listed, rfl⟩ := List.mem_map.mp member
  rcases List.mem_cons.mp listed with same | field
  · rw [same]
    apply isLine_utf8
    · intro empty
      have characters := congrArg String.toList empty
      rw [requestLine, String.toList_append, String.toList_append] at characters
      have front := (List.append_eq_nil_iff.mp (List.append_eq_nil_iff.mp characters).1).1
      exact absurd front (by decide)
    · rw [requestLine, String.toList_append, String.toList_append, List.mem_append, List.mem_append]
      intro member
      rcases member with (method | inPath) | version
      · exact absurd method (by decide)
      · exact plain.noReturn inPath
      · exact absurd version (by decide)
  · obtain ⟨field, known, rfl⟩ := List.mem_map.mp field
    simp only [requestFields, List.mem_cons, List.mem_append, Option.mem_toList, Option.map_eq_some_iff,
      List.not_mem_nil, or_false] at known
    rcases known with rfl | rfl | rfl | ⟨token, given, rfl⟩ | rfl
    · apply isLine_headerLine (show '\r' ∉ "Host".toList by decide)
      rw [String.toList_append, String.toList_append, List.mem_append, List.mem_append]
      intro member
      rcases member with (host | separator) | port
      · exact plain.host host
      · exact absurd separator (by decide)
      · exact noReturn_showNat _ port
    · exact isLine_headerLine (by decide) (by decide)
    · exact isLine_headerLine (show '\r' ∉ "Content-Length".toList by decide) (noReturn_showNat _)
    · apply isLine_headerLine (show '\r' ∉ "Authorization".toList by decide)
      rw [String.toList_append, List.mem_append]
      intro member
      rcases member with bearer | inToken
      · exact absurd bearer (by decide)
      · exact noReturn_of_render rendered token given inToken
    · exact isLine_headerLine (by decide) (by decide)

/-- What is written on the connection. -/
theorem bytes_of_render (rendered : Agent.renderPostRequest endpoint authToken path body = .ok head) :
    utf8 head ++ utf8 body = message 13 10 ((requestLines endpoint authToken path body).map utf8) (utf8 body) := by
  have characters := utf8_message ((requestLines endpoint authToken path body).map String.toList) []
  rw [← toList_of_render rendered, String.ofList_toList, List.map_map] at characters
  have lines : (requestLines endpoint authToken path body).map (fun line => utf8 (String.ofList line.toList)) =
      (requestLines endpoint authToken path body).map utf8 :=
    List.map_congr_left fun line _ => congrArg utf8 String.ofList_toList
  have composed : ((fun line => utf8 (String.ofList line)) ∘ String.toList) =
      fun line : String => utf8 (String.ofList line.toList) := rfl
  have empty : utf8 (String.ofList []) = [] := rfl
  rw [composed, lines, empty] at characters
  rw [characters]
  simp only [message, List.append_assoc, List.cons_append, List.nil_append]

theorem splitHead_of_render (plain : PlainRequest endpoint authToken path)
    (rendered : Agent.renderPostRequest endpoint authToken path body = .ok head) :
    splitHead 13 10 (utf8 head ++ utf8 body) =
      some (Library.joinLines 13 10 ((requestLines endpoint authToken path body).map utf8), utf8 body) := by
  rw [bytes_of_render rendered]
  exact splitHead_message (by decide) (List.cons_ne_nil _ _) (isLine_requestLines plain rendered) (utf8 body)

end Request

/-! ### The request as it is read -/

namespace JsonRequest

theorem readHead_of_splitHead {stream head body : Binary} {reads : List Binary} (packets : Packets stream reads)
    (split : splitHead 13 10 stream = some (head, body)) (short : head.length + 3 ≤ maxHeaderBytes) :
    readHead reads = .ok head := by
  have decides := decidesAt_head split
  rw [if_neg (by omega)] at decides
  apply readChunks_decided decides
  · rw [List.nil_append]
    exact packets.whole
  · exact Nat.succ_pos _
  · intro first rest _ long
    omega

theorem toInteger_showNat (value : Nat) : toInteger (utf8 (showNat value)) = some (value : Int) := by
  have bytes : (utf8 (showNat value)).map (fun byte => Char.ofNat byte.toNat) = decimal value := by
    rw [showNat, utf8_decimal, List.map_map]
    conv_rhs => rw [← List.map_id (decimal value)]
    apply List.map_congr_left
    intro digit member
    obtain ⟨-, -, code⟩ := isDigitByte_digitByte (decimal_isDigit member)
    show Char.ofNat (digitByte digit).toNat = digit
    rw [code, Char.ofNat_toNat]
  rw [toInteger, bytes, parseInteger_decimal]

theorem splitRequestLine_requestLine {path : String} (noSpace : ' ' ∉ path.toList) :
    splitRequestLine (utf8 (requestLine path)) = some (utf8 "POST", utf8 path, utf8 "HTTP/1.1") := by
  have method : utf8 "POST " = utf8 "POST" ++ [32] := by decide +kernel
  have version : utf8 " HTTP/1.1" = 32 :: utf8 "HTTP/1.1" := by decide +kernel
  have line : utf8 (requestLine path) = utf8 "POST" ++ 32 :: (utf8 path ++ 32 :: utf8 "HTTP/1.1") := by
    rw [requestLine, utf8_append, utf8_append, method, version]
    simp only [List.append_assoc, List.cons_append, List.nil_append]
  have absent : (32 : UInt8) ∉ utf8 path := fun member => noSpace ((mem_utf8_iff (show isAscii ' ' = true by decide)).mp member)
  have first : (32 : UInt8) ∉ utf8 "POST" := by decide +kernel
  unfold splitRequestLine
  rw [line, cutAt_append first, Option.bind_some, cutAt_append absent, Option.map_some]

section Read

variable {text : TextFunctions} {endpoint : Agent.ControlEndpoint} {authToken : Option String} {path body head : String}

theorem requestFields_read (documented : text.Documented) :
    ∀ field ∈ requestFields endpoint authToken body, field.Read text := by
  intro field known
  simp only [requestFields, List.mem_cons, List.mem_append, Option.mem_toList, Option.map_eq_some_iff,
    List.not_mem_nil, or_false] at known
  have read : ∀ name ∈ ["Host", "Content-Type", "Content-Length", "Authorization", "Connection"],
      ':' ∉ name.toList ∧ endsSolid (utf8 name) = true ∧ ∀ byte ∈ utf8 name, byte < 128 := by decide +kernel
  have of_name : ∀ {field : HeaderField}, field.name ∈ ["Host", "Content-Type", "Content-Length", "Authorization", "Connection"] →
      (utf8 field.name).map lowerByte = utf8 field.lower → field.Read text := by
    intro field member lowered
    obtain ⟨plain, solid, ascii⟩ := read field.name member
    exact HeaderField.Read.of_documented documented plain solid ascii lowered
  rcases known with rfl | rfl | rfl | ⟨token, -, rfl⟩ | rfl
  · exact of_name (show "Host" ∈ _ by decide) (show (utf8 "Host").map lowerByte = utf8 "host" by decide +kernel)
  · exact of_name (show "Content-Type" ∈ _ by decide)
      (show (utf8 "Content-Type").map lowerByte = utf8 "content-type" by decide +kernel)
  · exact of_name (show "Content-Length" ∈ _ by decide)
      (show (utf8 "Content-Length").map lowerByte = utf8 "content-length" by decide +kernel)
  · exact of_name (show "Authorization" ∈ _ by decide)
      (show (utf8 "Authorization").map lowerByte = utf8 "authorization" by decide +kernel)
  · exact of_name (show "Connection" ∈ _ by decide)
      (show (utf8 "Connection").map lowerByte = utf8 "connection" by decide +kernel)

/-- The request that the agent means. -/
def agentRequest (text : TextFunctions) (endpoint : Agent.ControlEndpoint) (authToken : Option String) (path body : String) :
    HttpRequest :=
  httpRequest text (utf8 "POST") (utf8 path) ((requestFields endpoint authToken body).map fun field => utf8 field.line)

theorem headers_agentRequest (documented : text.Documented) (wanted : String) :
    (agentRequest text endpoint authToken path body).headers (utf8 wanted) =
      ((requestFields endpoint authToken body).reverse.find? fun field => field.lower == wanted).map
        fun field => text.trim (32 :: utf8 field.value) := by
  show parseHeaders text _ (utf8 wanted) = _
  rw [parseHeaders_eq, lastHeader_fields (requestFields_read documented)]

theorem contentLength_agentRequest (documented : text.Documented) :
    (agentRequest text endpoint authToken path body).headers (utf8 "content-length") =
      some (utf8 (showNat (utf8 body).length)) := by
  have solid : endsSolid (utf8 (showNat (utf8 body).length)) = true := by
    apply endsSolid_of_all
    intro byte member
    rw [showNat, utf8_decimal] at member
    obtain ⟨digit, inside, rfl⟩ := List.mem_map.mp member
    have digits := (isDigitByte_digitByte (decimal_isDigit inside)).2.1
    simp only [isDigitByte, Bool.and_eq_true, decide_eq_true_eq, UInt8.le_iff_toNat_le] at digits
    simp only [isSolidByte, Bool.and_eq_true, decide_eq_true_eq, UInt8.le_iff_toNat_le]
    have bounds : (0x30 : UInt8).toNat = 48 ∧ (0x39 : UInt8).toNat = 57 ∧ (0x21 : UInt8).toNat = 33 ∧ (0x7e : UInt8).toNat = 126 := by
      decide
    omega
  rw [headers_agentRequest documented, ← documented.trim_blank _ solid]
  cases authToken with
  | none => rfl
  | some token => rfl

theorem requestId_agentRequest (documented : text.Documented) :
    (agentRequest text endpoint authToken path body).headers (utf8 "x-request-id") = none := by
  rw [headers_agentRequest documented]
  cases authToken with
  | none => rfl
  | some token => rfl

theorem bearerToken_agentRequest (documented : text.Documented) (plain : PlainRequest endpoint authToken path) :
    bearerToken text (agentRequest text endpoint authToken path body).headers = authToken.map utf8 := by
  unfold bearerToken
  rw [headers_agentRequest documented]
  cases given : authToken with
  | none => rfl
  | some token =>
    obtain ⟨nonempty, solid⟩ := plain.token token given
    have whole : endsSolid (utf8 ("Bearer " ++ token)) = true := by
      unfold endsSolid at solid ⊢
      rw [Bool.and_eq_true] at solid ⊢
      have some : utf8 token ≠ [] := fun empty => nonempty (utf8_injective empty)
      rw [utf8_append, List.getLast?_append_of_ne_nil _ some]
      exact ⟨rfl, solid.2⟩
    have found : ((requestFields endpoint (some token) body).reverse.find? fun field => field.lower == "authorization").map
        (fun field => text.trim (32 :: utf8 field.value)) = some (text.trim (32 :: utf8 ("Bearer " ++ token))) := rfl
    have isBearer : (utf8 "Bearer ").isPrefixOf (utf8 "Bearer " ++ utf8 token) = true :=
      List.isPrefixOf_iff_prefix.mpr (List.prefix_append _ _)
    rw [found, documented.trim_blank _ whole, utf8_append]
    simp only [isBearer, if_true]
    rw [List.drop_left, documented.trim_solid _ solid]
    rfl

/-- The service reads the request of an agent as it is meant, whatever the packets it comes in. -/
theorem readRequest_agentRequest (documented : text.Documented) (plain : PlainRequest endpoint authToken path)
    (rendered : Agent.renderPostRequest endpoint authToken path body = .ok head) {maxBodyBytes unique : Nat}
    (short : (utf8 head).length ≤ maxHeaderBytes + 1) (small : (utf8 body).length ≤ maxBodyBytes) {reads : List Binary}
    (packets : Packets (utf8 head ++ utf8 body) reads) :
    readRequest text maxBodyBytes unique reads =
      .ok ⟨agentRequest text endpoint authToken path body, utf8 body, generateRequestId unique⟩ := by
  have split := splitHead_of_render plain rendered
  have parts := eq_of_splitHead split
  generalize joined : Library.joinLines 13 10 ((requestLines endpoint authToken path body).map utf8) = front at split parts
  have headBytes : utf8 head = front ++ [13, 10, 13, 10] := List.append_cancel_right parts
  have size := congrArg List.length headBytes
  rw [List.length_append, show ([13, 10, 13, 10] : Binary).length = 4 from rfl] at size
  have read : readHead reads = .ok front := readHead_of_splitHead packets split (by omega)
  have lines : splitLines 13 10 front = (requestLines endpoint authToken path body).map utf8 := by
    rw [← joined]
    exact splitLines_joinLines (List.cons_ne_nil _ _) (isLine_requestLines plain rendered)
  have length : (agentRequest text endpoint authToken path body).headers (utf8 "content-length") =
      some (utf8 (showNat (utf8 body).length)) := contentLength_agentRequest documented
  have parsed : parseHead text maxBodyBytes unique front =
      .ok ⟨agentRequest text endpoint authToken path body, (utf8 body).length, generateRequestId unique⟩ := by
    have fields : ((requestFields endpoint authToken body).map HeaderField.line).map utf8 =
        (requestFields endpoint authToken body).map fun field => utf8 field.line := List.map_map
    have headers : parseHeaders text ((requestFields endpoint authToken body).map fun field => utf8 field.line) =
        (agentRequest text endpoint authToken path body).headers := rfl
    have drawn : requestId text (agentRequest text endpoint authToken path body).headers unique = generateRequestId unique := by
      rw [requestId, requestId_agentRequest documented]
    unfold parseHead
    rw [lines, requestLines, List.map_cons, fields]
    simp only [splitRequestLine_requestLine plain.noSpace]
    rw [headers, length, Option.getD_some, toInteger_showNat, drawn]
    simp only []
    rw [if_neg (by omega)]
    rfl
  rw [readRequest_eq text maxBodyBytes unique packets.whole, read]
  simp only [finishRequest, parsed]
  have behind : (utf8 head ++ utf8 body).drop (front.length + 4) = utf8 body := by
    rw [← size, List.drop_left]
  rw [behind]
  unfold readBody
  rw [if_pos le_rfl, if_neg (by omega), Int.toNat_natCast, List.take_length]
  rfl

end Read

end JsonRequest

end TelemetryFabric.ControlPlane
