import TelemetryFabric.ControlPlane.JsonEncode

/-!
The bodies of an agent's requests: texts put together from escaped strings and numbers, which the
control plane reads back as the objects they were made of.
-/

namespace TelemetryFabric.ControlPlane
open Library Library.JsonText

/-- What an agent says of itself in its requests. -/
structure AgentClient where
  agentId : String
  tenantId : String
  hostname : String
  version : String

/-- `HeartbeatStats`, in the widths of the agent. -/
structure HeartbeatCounters where
  configVersion : UInt64
  queueDepthBytes : UInt64
  ingestBytesPerSecond : UInt64

/-- `json_escape` of the agent. -/
def jsonEscape (value : String) : String :=
  replaceChar '\t' "\\t" (replaceChar '\r' "\\r" (replaceChar '\n' "\\n"
    (replaceChar '"' "\\\"" (replaceChar '\\' "\\\\" value))))

namespace AgentClient

variable (client : AgentClient)

def registerBody : String :=
  "\x7b\"agent_id\":\"" ++ jsonEscape client.agentId ++ "\",\"tenant_id\":\"" ++ jsonEscape client.tenantId ++
    "\",\"hostname\":\"" ++ jsonEscape client.hostname ++ "\",\"version\":\"" ++ jsonEscape client.version ++ "\"\x7d"

def heartbeatBody (stats : HeartbeatCounters) : String :=
  "\x7b\"agent_id\":\"" ++ jsonEscape client.agentId ++ "\",\"tenant_id\":\"" ++ jsonEscape client.tenantId ++
    "\",\"config_version\":" ++ showU64 stats.configVersion ++ ",\"queue_depth_bytes\":" ++
    showU64 stats.queueDepthBytes ++ ",\"ingest_bytes_per_second\":" ++ showU64 stats.ingestBytesPerSecond ++ "\x7d"

def configUpdateBody (currentVersion : UInt64) : String :=
  "\x7b\"agent_id\":\"" ++ jsonEscape client.agentId ++ "\",\"tenant_id\":\"" ++ jsonEscape client.tenantId ++
    "\",\"current_version\":" ++ showU64 currentVersion ++ "\x7d"

def ackCommandBody (commandId : String) (success : Bool) (error : Option String) : String :=
  let errorField := match error with
    | some error => ",\"error\":\"" ++ jsonEscape error ++ "\""
    | none => ""
  "\x7b\"agent_id\":\"" ++ jsonEscape client.agentId ++ "\",\"tenant_id\":\"" ++ jsonEscape client.tenantId ++
    "\",\"command_id\":\"" ++ jsonEscape commandId ++ "\",\"success\":" ++ showBool success ++ errorField ++ "\x7d"

end AgentClient

/-! ### Bytes -/

theorem utf8_append (first second : String) : utf8 (first ++ second) = utf8 first ++ utf8 second := by
  rw [← String.ofList_toList (s := first ++ second), String.toList_append, Json.utf8_ofList, List.flatMap_append,
    ← Json.utf8_ofList, ← Json.utf8_ofList, String.ofList_toList, String.ofList_toList]

/-- The bytes of an escaped text. -/
def escapedBytes (value : String) : Bytes := (Json.textPieces value).flatMap Piece.bytes

theorem utf8_jsonEscape (value : String) : utf8 (jsonEscape value) = escapedBytes value := Json.utf8_escape value

/-- A name as it is written before a value. -/
def nameBytes (name : String) : Bytes := quoted (Json.textPieces name)

/-- The fields of a body as members of an object. -/
def stringMember (name value : String) : List Piece × Document := (Json.textPieces name, .string (Json.textPieces value))

def counterMember (name : String) (value : UInt64) : List Piece × Document :=
  (Json.textPieces name, .number (integerToken value.toNat))

def booleanMember (name : String) (value : Bool) : List Piece × Document := (Json.textPieces name, .boolean value)

theorem written_stringMember (name value : String) (rest : List (List Piece × Document)) :
    writtenMembers (stringMember name value :: rest) =
      (nameBytes name ++ colon :: quotationMark :: (escapedBytes value ++ [quotationMark])) :: writtenMembers rest := rfl

theorem written_counterMember (name : String) (value : UInt64) (rest : List (List Piece × Document)) :
    writtenMembers (counterMember name value :: rest) = (nameBytes name ++ colon :: utf8 (showU64 value)) :: writtenMembers rest :=
  rfl

theorem written_booleanMember (name : String) (value : Bool) (rest : List (List Piece × Document)) :
    writtenMembers (booleanMember name value :: rest) =
      (nameBytes name ++ colon :: Document.literal value) :: writtenMembers rest := rfl

theorem written_no_member : writtenMembers [] = [] := rfl

/-- Everything of a body that is known beforehand, appended bytes put to the right. -/
theorem written_members (members : List (List Piece × Document)) :
    (Document.object members).written = beginObject :: ([comma].intercalate (writtenMembers members) ++ [endObject]) := by
  rw [Document.written]

theorem utf8_first : utf8 "\x7b\"agent_id\":\"" = beginObject :: (nameBytes "agent_id" ++ [colon, quotationMark]) := by
  decide +kernel

theorem utf8_tenant :
    utf8 "\",\"tenant_id\":\"" = quotationMark :: comma :: (nameBytes "tenant_id" ++ [colon, quotationMark]) := by
  decide +kernel

theorem utf8_end : utf8 "\x7d" = [endObject] := by
  decide +kernel

theorem registerBody_eq (client : AgentClient) : utf8 client.registerBody = (Document.object
    [stringMember "agent_id" client.agentId, stringMember "tenant_id" client.tenantId,
      stringMember "hostname" client.hostname, stringMember "version" client.version]).written := by
  have hostname : utf8 "\",\"hostname\":\"" = quotationMark :: comma :: (nameBytes "hostname" ++ [colon, quotationMark]) := by
    decide +kernel
  have version : utf8 "\",\"version\":\"" = quotationMark :: comma :: (nameBytes "version" ++ [colon, quotationMark]) := by
    decide +kernel
  have last : utf8 "\"\x7d" = [quotationMark, endObject] := by decide +kernel
  unfold AgentClient.registerBody
  iterate 8 rw [utf8_append]
  rw [utf8_first, utf8_tenant, hostname, version, last, written_members]
  simp [utf8_jsonEscape, written_stringMember, written_no_member, List.intercalate]

theorem heartbeatBody_eq (client : AgentClient) (stats : HeartbeatCounters) : utf8 (client.heartbeatBody stats) = (Document.object
    [stringMember "agent_id" client.agentId, stringMember "tenant_id" client.tenantId,
      counterMember "config_version" stats.configVersion, counterMember "queue_depth_bytes" stats.queueDepthBytes,
      counterMember "ingest_bytes_per_second" stats.ingestBytesPerSecond]).written := by
  have version : utf8 "\",\"config_version\":" = quotationMark :: comma :: (nameBytes "config_version" ++ [colon]) := by
    decide +kernel
  have depth : utf8 ",\"queue_depth_bytes\":" = comma :: (nameBytes "queue_depth_bytes" ++ [colon]) := by decide +kernel
  have rate : utf8 ",\"ingest_bytes_per_second\":" = comma :: (nameBytes "ingest_bytes_per_second" ++ [colon]) := by
    decide +kernel
  unfold AgentClient.heartbeatBody
  iterate 10 rw [utf8_append]
  rw [utf8_first, utf8_tenant, version, depth, rate, utf8_end, written_members]
  simp [utf8_jsonEscape, written_stringMember, written_counterMember, written_no_member, List.intercalate]

theorem configUpdateBody_eq (client : AgentClient) (currentVersion : UInt64) :
    utf8 (client.configUpdateBody currentVersion) = (Document.object
      [stringMember "agent_id" client.agentId, stringMember "tenant_id" client.tenantId,
        counterMember "current_version" currentVersion]).written := by
  have version : utf8 "\",\"current_version\":" = quotationMark :: comma :: (nameBytes "current_version" ++ [colon]) := by
    decide +kernel
  unfold AgentClient.configUpdateBody
  iterate 6 rw [utf8_append]
  rw [utf8_first, utf8_tenant, version, utf8_end, written_members]
  simp [utf8_jsonEscape, written_stringMember, written_counterMember, written_no_member, List.intercalate]

/-- The member that an acknowledgement has for an error. -/
def errorMembers (error : Option String) : List (List Piece × Document) := (error.map (stringMember "error")).toList

theorem ackCommandBody_eq (client : AgentClient) (commandId : String) (success : Bool) (error : Option String) :
    utf8 (client.ackCommandBody commandId success error) = (Document.object
      ([stringMember "agent_id" client.agentId, stringMember "tenant_id" client.tenantId,
        stringMember "command_id" commandId, booleanMember "success" success] ++ errorMembers error)).written := by
  have command : utf8 "\",\"command_id\":\"" = quotationMark :: comma :: (nameBytes "command_id" ++ [colon, quotationMark]) := by
    decide +kernel
  have succeeded : utf8 "\",\"success\":" = quotationMark :: comma :: (nameBytes "success" ++ [colon]) := by decide +kernel
  have failed : utf8 ",\"error\":\"" = comma :: (nameBytes "error" ++ [colon, quotationMark]) := by decide +kernel
  have closed : utf8 "\"" = [quotationMark] := by decide +kernel
  have literal : utf8 (showBool success) = Document.literal success := by cases success <;> decide +kernel
  unfold AgentClient.ackCommandBody
  cases error with
  | none =>
    simp only [String.append_empty]
    iterate 8 rw [utf8_append]
    rw [utf8_first, utf8_tenant, command, succeeded, literal, utf8_end, written_members]
    simp [utf8_jsonEscape, written_stringMember, written_booleanMember, written_no_member, List.intercalate, errorMembers]
  | some error =>
    simp only
    iterate 11 rw [utf8_append]
    rw [utf8_first, utf8_tenant, command, succeeded, literal, failed, closed, utf8_end, written_members]
    simp [utf8_jsonEscape, written_stringMember, written_booleanMember, written_no_member, List.intercalate, errorMembers]

/-! ### Reading back -/

section Reading

variable {F : Type} {nearest : Decimal → Option F}

/-- The parser takes the members, and they have these names and values. -/
structure Reads (nearest : Decimal → Option F) (members : List (List Piece × Document)) (fields : List (String × Json F)) :
    Prop where
  fits : FitsMembers (Json.dialect nearest) members
  read : Json.fieldsOf nearest Json.pieceText members = some fields

namespace Reads

theorem none : Reads nearest [] [] := ⟨trivial, rfl⟩

variable {members : List (List Piece × Document)} {fields : List (String × Json F)} (others : Reads nearest members fields)

include others

theorem string (name value : String) : Reads nearest (stringMember name value :: members) ((name, .string value) :: fields) where
  fits := ⟨Json.fits_textPieces nearest name, Json.fits_textPieces nearest value, others.fits⟩
  read := by simp [stringMember, Json.fieldsOf, Json.valueOf, Json.pieceText_textPieces, others.read]

theorem counter (name : String) (value : UInt64) :
    Reads nearest (counterMember name value :: members) ((name, .integer value.toNat) :: fields) := by
  obtain ⟨number, read, integer, same, -⟩ := readNumber_integerToken value.toNat
  constructor
  · refine ⟨Json.fits_textPieces nearest name, ⟨by simp [Json.numberValue, read, integer], ?_⟩, others.fits⟩
    intro other member
    cases read.symm.trans member
    exact .inl integer
  · simp [counterMember, Json.fieldsOf, Json.valueOf, Json.numberValue, Json.pieceText_textPieces, read, integer, same, others.read]

theorem boolean (name : String) (value : Bool) :
    Reads nearest (booleanMember name value :: members) ((name, .boolean value) :: fields) where
  fits := ⟨Json.fits_textPieces nearest name, trivial, others.fits⟩
  read := by simp [booleanMember, Json.fieldsOf, Json.valueOf, Json.pieceText_textPieces, others.read]

theorem decode_eq : Json.decode nearest (Document.object members).written = .ok (.object (Json.lastOf fields [])) := by
  obtain ⟨value, made, decoded⟩ := Json.decode_of_isText (isText_written (show (Document.object members).Fits _ from others.fits))
  rw [decoded]
  simp only [Json.valueOf, others.read, Option.map_some, Option.some.injEq] at made
  rw [made]

end Reads

theorem place_behind {key other : String} (before : other < key) (value old : Json F) (rest : JsonObject F) :
    OrderedMap.place key value ((other, old) :: rest) = (other, old) :: OrderedMap.place key value rest := by
  rw [OrderedMap.place, if_neg before.not_gt, if_pos before]

theorem place_ahead {key other : String} (after : key < other) (value old : Json F) (rest : JsonObject F) :
    OrderedMap.place key value ((other, old) :: rest) = (key, value) :: (other, old) :: rest := by
  rw [OrderedMap.place, if_pos after]

theorem place_alone (key : String) (value : Json F) : OrderedMap.place key value [] = [(key, value)] := rfl

/-- Requests are read back as they were sent. -/
theorem bodies_read_back (nearest : Decimal → Option F) (client : AgentClient) (stats : HeartbeatCounters) (currentVersion : UInt64)
    (commandId : String) (success : Bool) (error : Option String) :
    Json.decode nearest (utf8 client.registerBody) = .ok (.object [("agent_id", .string client.agentId),
      ("hostname", .string client.hostname), ("tenant_id", .string client.tenantId), ("version", .string client.version)]) ∧
    Json.decode nearest (utf8 (client.heartbeatBody stats)) = .ok (.object [("agent_id", .string client.agentId),
      ("config_version", .integer stats.configVersion.toNat),
      ("ingest_bytes_per_second", .integer stats.ingestBytesPerSecond.toNat),
      ("queue_depth_bytes", .integer stats.queueDepthBytes.toNat), ("tenant_id", .string client.tenantId)]) ∧
    Json.decode nearest (utf8 (client.configUpdateBody currentVersion)) = .ok (.object [("agent_id", .string client.agentId),
      ("current_version", .integer currentVersion.toNat), ("tenant_id", .string client.tenantId)]) ∧
    Json.decode nearest (utf8 (client.ackCommandBody commandId success error)) = .ok (.object
      ([("agent_id", .string client.agentId), ("command_id", .string commandId)] ++
        (error.map fun error => ("error", Json.string error)).toList ++
          [("success", .boolean success), ("tenant_id", .string client.tenantId)])) := by
  refine ⟨?_, ?_, ?_, ?_⟩
  · rw [registerBody_eq, ((((Reads.none.string _ _).string _ _).string _ _).string _ _).decode_eq]
    simp (disch := decide +kernel) only [Json.lastOf, List.foldl_cons, List.foldl_nil, place_alone, place_ahead, place_behind]
  · rw [heartbeatBody_eq, (((((Reads.none.counter _ _).counter _ _).counter _ _).string _ _).string _ _).decode_eq]
    simp (disch := decide +kernel) only [Json.lastOf, List.foldl_cons, List.foldl_nil, place_alone, place_ahead, place_behind]
  · rw [configUpdateBody_eq, (((Reads.none.counter _ _).string _ _).string _ _).decode_eq]
    simp (disch := decide +kernel) only [Json.lastOf, List.foldl_cons, List.foldl_nil, place_alone, place_ahead, place_behind]
  · rw [ackCommandBody_eq]
    cases error with
    | none =>
      rw [errorMembers]
      simp only [Option.map_none, Option.toList_none, List.append_nil]
      rw [((((Reads.none.boolean _ _).string _ _).string _ _).string _ _).decode_eq]
      simp (disch := decide +kernel) only [Json.lastOf, List.foldl_cons, List.foldl_nil, place_alone, place_ahead, place_behind]
      rfl
    | some error =>
      rw [errorMembers]
      simp only [Option.map_some, Option.toList_some, List.cons_append, List.nil_append]
      rw [(((((Reads.none.string _ _).boolean _ _).string _ _).string _ _).string _ _).decode_eq]
      simp (disch := decide +kernel) only [Json.lastOf, List.foldl_cons, List.foldl_nil, place_alone, place_ahead, place_behind]

end Reading

end TelemetryFabric.ControlPlane
