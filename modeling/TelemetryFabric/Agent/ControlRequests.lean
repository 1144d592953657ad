import TelemetryFabric.Agent.ConfigUpdates
import TelemetryFabric.Agent.HttpRequest
import TelemetryFabric.Library.HttpText
import TelemetryFabric.Library.Yaml

/-!
The agent's side of a request to the control plane: how it is written on the connection, and how what
comes back is read, first as a message of HTTP and then, by the YAML parser, as a value with the fields
that are asked for.
-/

namespace TelemetryFabric.Agent
open Library

/-- `DynError`, by where it is from. The texts of the other libraries are left open. -/
inductive ControlError where
  | control (message : String)
  | integer
  | utf8
  | yaml (message : String)
  deriving DecidableEq

structure ControlEndpoint where
  host : String
  port : UInt16
  deriving DecidableEq

/-! ### Requests -/

/-- The head of a request, to the empty line. -/
def renderPostRequest (endpoint : ControlEndpoint) (authToken : Option String) (path body : String) :
    Except ControlError String :=
  let request := "POST " ++ path ++ " HTTP/1.1\r\nHost: " ++ endpoint.host ++ ":" ++
    String.ofList (decimal endpoint.port.toNat) ++ "\r\nContent-Type: application/json\r\nContent-Length: " ++
    String.ofList (decimal (utf8 body).length) ++ "\r\n"
  match authToken with
  | none => .ok (request ++ "Connection: close\r\n\r\n")
  | some token =>
      if token.toList.contains '\r' || token.toList.contains '\n' then
        .error (.control "control auth token must not contain newline characters")
      else .ok (request ++ ("Authorization: Bearer " ++ token ++ "\r\n") ++ "Connection: close\r\n\r\n")

/-! ### Responses -/

section Responses

variable (fromStr : String → Except String Yaml)

def parseHttpJsonResponse (response : List Char) : Except ControlError Yaml :=
  match splitHead '\r' '\n' response with
  | none => .error (.control "control endpoint returned an invalid HTTP response")
  | some (head, body) =>
      match lines head with
      | [] => .error (.control "control endpoint returned an empty HTTP response")
      | statusLine :: _ =>
          match (splitWhitespace statusLine)[1]? with
          | none => .error (.control "missing HTTP status code")
          | some code =>
              match parseUnsigned (2 ^ 16) code with
              | none => .error .integer
              | some statusCode =>
                  if 200 ≤ statusCode ∧ statusCode < 300 then (fromStr (String.ofList body)).mapError .yaml
                  else .error (.control ("control endpoint returned HTTP " ++ String.ofList (decimal statusCode) ++ ": " ++
                    String.ofList body))

/-- What `post_json` makes of the bytes that come back. -/
def readResponse (response : Bytes) : Except ControlError Yaml :=
  match fromUtf8? response with
  | none => .error .utf8
  | some text => parseHttpJsonResponse fromStr text.toList

end Responses

/-! ### Values -/

/-- `mapping.get(Value::String(key))`. -/
def getField (value : Yaml) (key : String) : Except ControlError Yaml :=
  match value with
  | .mapping entries =>
      match entries.findSome? fun entry =>
          match entry.1 with
          | .string name => if name = key then some entry.2 else none
          | _ => none with
      | some field => .ok field
      | none => .error (.control ("missing field in control response: " ++ key))
  | _ => .error (.control "expected JSON object")

def getString (value : Yaml) (key : String) : Except ControlError String := do
  match ← getField value key with
  | .string text => .ok text
  | _ => .error (.control ("field must be a string: " ++ key))

def getOptionalString (value : Yaml) (key : String) : Option String :=
  match getString value key with
  | .ok text => some text
  | .error _ => none

def getBool (value : Yaml) (key : String) : Except ControlError Bool := do
  match ← getField value key with
  | .bool flag => .ok flag
  | _ => .error (.control ("field must be a boolean: " ++ key))

/-- `as_u64` of a number. -/
def getU64 (value : Yaml) (key : String) : Except ControlError UInt64 := do
  match ← getField value key with
  | .int number =>
      if 0 ≤ number ∧ number < 2 ^ 64 then .ok (UInt64.ofNat number.toNat)
      else .error (.control ("field must be an unsigned integer: " ++ key))
  | _ => .error (.control ("field must be an unsigned integer: " ++ key))

structure RegisterResponse where
  accepted : Bool
  configVersion : UInt64
  message : String
  deriving DecidableEq

inductive ControlCommandKind where
  | reloadConfig
  | drainAndRestart
  | pauseExports
  | resumeExports
  | unknown
  deriving DecidableEq

inductive ControlCommandStatus where
  | pending
  | delivered
  | succeeded
  | failed
  | unknown
  deriving DecidableEq

structure ControlCommand where
  commandId : String
  kind : ControlCommandKind
  reason : String
  status : ControlCommandStatus
  deriving DecidableEq

def parseCommandKind (value : String) : ControlCommandKind :=
  if value = "reload_config" then .reloadConfig
  else if value = "drain_and_restart" then .drainAndRestart
  else if value = "pause_exports" then .pauseExports
  else if value = "resume_exports" then .resumeExports
  else .unknown

def parseCommandStatus (value : String) : ControlCommandStatus :=
  if value = "pending" then .pending
  else if value = "delivered" then .delivered
  else if value = "succeeded" then .succeeded
  else if value = "failed" then .failed
  else .unknown

def parseRegisterResponse (value : Yaml) : Except ControlError RegisterResponse := do
  let agent ← getField value "agent"
  return ⟨← getBool agent "accepted", ← getU64 agent "config_version", ← getString agent "message"⟩

def parseCommand (value : Yaml) : Except ControlError ControlCommand := do
  let commandId ← getString value "command_id"
  let kind ← getString value "kind"
  let reason ← getString value "reason"
  return ⟨commandId, parseCommandKind kind, reason,
    ((getOptionalString value "status").map parseCommandStatus).getD .unknown⟩

/-- All of the commands, or the first error. -/
def parseCommandsResponse (value : Yaml) : Except ControlError (List ControlCommand) := do
  match ← getField value "commands" with
  | .sequence commands => commands.mapM parseCommand
  | _ => .error (.control "commands must be an array")

def parseConfigUpdateResponse (value : Yaml) : Except ControlError (Option ConfigUpdate) := do
  match ← getField value "update" with
  | .null => return none
  | update => return some ⟨← getU64 update "version", ← getString update "pipeline_config",
      ← getString update "checksum", getOptionalString update "signature"⟩

end TelemetryFabric.Agent
