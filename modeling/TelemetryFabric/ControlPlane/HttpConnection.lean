import TelemetryFabric.ControlPlane.RequestHandlers
import TelemetryFabric.Library.Chunks
import TelemetryFabric.Library.HttpText

/-!
One connection to the HTTP server of the control plane: the request is read from the socket, in
whatever packets it comes, and the response is written back before the connection is closed. A
request that cannot be read is answered by its own error.
-/

namespace TelemetryFabric.ControlPlane
open Library

namespace JsonRequest

def maxHeaderBytes : Nat := 16 * 1024

def defaultMaxBodyBytes : Nat := 1 * 1024 * 1024

/-- What is raised while a request is read. The last two are an `ArgumentError`. -/
inductive RequestFault where
  | headersTooLong
  | headNotRead
  | bodyNotRead
  | noMatch
  | tooLarge (method path requestId : Binary)
  | noInteger
  | noPart
  deriving DecidableEq

structure ServedRequest extends HttpRequest where
  body : Binary
  requestId : Binary

/-! ### Reading from the socket -/

/-- What is decided of the bytes read so far. -/
def headStep (acc : Binary) : Option (Except RequestFault (Binary × Binary)) :=
  match splitHead 13 10 acc with
  | some (head, body) => some (if maxHeaderBytes < head.length then .error .headersTooLong else .ok (head, body))
  | none => if maxHeaderBytes < acc.length then some (.error .headersTooLong) else none

/-- `recv(socket, 0)` returns what has come, until there is an error. What has not been read is left. -/
def readUntilHeaders (acc : Binary) : List Binary → Except RequestFault ((Binary × Binary) × List Binary)
  | [] =>
      match headStep acc with
      | some result => result.map fun parts => (parts, [])
      | none => .error .headNotRead
  | chunk :: rest =>
      match headStep acc with
      | some result => result.map fun parts => (parts, chunk :: rest)
      | none => readUntilHeaders (acc ++ chunk) rest

/-- `recv(socket, remaining)` returns as many bytes or an error. -/
def readBody (body : Binary) (reads : List Binary) (contentLength : Int) : Except RequestFault Binary :=
  if contentLength ≤ body.length then
    if contentLength < 0 then .error .noPart else .ok (body.take contentLength.toNat)
  else
    let remaining := contentLength.toNat - body.length
    if remaining ≤ reads.flatten.length then .ok (body ++ reads.flatten.take remaining) else .error .bodyNotRead

/-! ### The request -/

/-- `String.to_integer`. -/
def toInteger (text : Binary) : Option Int := parseInteger (text.map fun byte => Char.ofNat byte.toNat)

/-- `String.split(request_line, " ", parts: 3)`, where it gives three parts. -/
def splitRequestLine (line : Binary) : Option (Binary × Binary × Binary) :=
  (cutAt 32 line).bind fun first => (cutAt 32 first.2).map fun second => (first.1, second.1, second.2)

def validRequestId (value : Binary) : Bool :=
  decide (0 < value.length) && decide (value.length ≤ 128) && !(value.contains 13 || value.contains 10)

def generateRequestId (unique : Nat) : Binary := utf8 ("req-" ++ base36 unique)

def requestId (text : TextFunctions) (headers : Binary → Option Binary) (unique : Nat) : Binary :=
  match headers (utf8 "x-request-id") with
  | some value => if validRequestId (text.trim value) then text.trim value else generateRequestId unique
  | none => generateRequestId unique

/-- What comes before the body. -/
structure RequestHead extends HttpRequest where
  contentLength : Int
  requestId : Binary

def parseHead (text : TextFunctions) (maxBodyBytes unique : Nat) (head : Binary) : Except RequestFault RequestHead :=
  match splitLines 13 10 head with
  | [] => .error .noMatch
  | requestLine :: headerLines =>
      match splitRequestLine requestLine with
      | none => .error .noMatch
      | some (method, path, _) =>
          let headers := parseHeaders text headerLines
          match toInteger ((headers (utf8 "content-length")).getD (utf8 "0")) with
          | none => .error .noInteger
          | some contentLength =>
              let requestId := requestId text headers unique
              if (maxBodyBytes : Int) < contentLength then .error (.tooLarge method path requestId)
              else .ok ⟨⟨method, path, headers⟩, contentLength, requestId⟩

def readRequest (text : TextFunctions) (maxBodyBytes unique : Nat) (reads : List Binary) :
    Except RequestFault ServedRequest :=
  match readUntilHeaders [] reads with
  | .error fault => .error fault
  | .ok ((head, body), rest) =>
      match parseHead text maxBodyBytes unique head with
      | .error fault => .error fault
      | .ok parsed => (readBody body rest parsed.contentLength).map fun body => ⟨parsed.toHttpRequest, body, parsed.requestId⟩

/-! ### The response -/

/-- The lines of a response without their ends, and its payload. -/
structure Rendered where
  lines : List Binary
  payload : Binary

def reason : Nat → String
  | 200 => "OK"
  | 400 => "Bad Request"
  | 401 => "Unauthorized"
  | 403 => "Forbidden"
  | 404 => "Not Found"
  | 413 => "Payload Too Large"
  | 429 => "Too Many Requests"
  | 503 => "Service Unavailable"
  | 500 => "Internal Server Error"
  | _ => "OK"

def showNat (value : Nat) : String := String.ofList (decimal value)

def textResponse (status : Nat) (contentType : String) (payload : Binary) : Rendered :=
  ⟨[utf8 ("HTTP/1.1 " ++ showNat status ++ " " ++ reason status), utf8 ("Content-Type: " ++ contentType),
    utf8 ("Content-Length: " ++ showNat payload.length), utf8 "Connection: close"], payload⟩

/-- The header goes behind the third line. -/
def putRequestIdHeader (response : Rendered) (requestId : Binary) : Rendered :=
  match response.lines with
  | statusLine :: contentType :: contentLength :: rest =>
      { response with lines := statusLine :: contentType :: contentLength :: (utf8 "X-Request-Id: " ++ requestId) :: rest }
  | _ => response

def Rendered.bytes (response : Rendered) : Binary := message 13 10 response.lines response.payload

section Connection

variable {F : Type} [DecidableEq F] (server : Server F) (maxBodyBytes : Nat) (faultMessage : RequestFault → String)

/-- The metrics are text, everything else is JSON. -/
def contentTypeOf (request : HttpRequest) : String :=
  if request.method = utf8 "GET" ∧ request.path = utf8 "/metrics" then "text/plain; version=0.0.4" else "application/json"

def RequestFault.status : RequestFault → Nat
  | .tooLarge _ _ _ => 413
  | .noInteger => 400
  | .noPart => 400
  | _ => 500

def faultBody (fault : RequestFault) : Encodable F :=
  match fault with
  | .tooLarge _ _ _ => errorBody "request_body_too_large" [(.atom "message", .string (faultMessage fault))]
  | _ => errorBody (faultMessage fault) []

/-- Only a request that is too large is answered with its own id. -/
def faultResponse (fault : RequestFault) : Rendered :=
  let response := textResponse fault.status "application/json"
    (Json.encode server.showFloat (faultBody (F := F) faultMessage fault))
  match fault with
  | .tooLarge _ _ requestId => putRequestIdHeader response requestId
  | _ => response

/-- What is written to the socket, if anything is, and the stores behind it. -/
def handleClient (unique : Nat) (reads : List Binary) (stores : Stores server.enumerate) :
    Option Rendered × Stores server.enumerate :=
  match readRequest server.text maxBodyBytes unique reads with
  | .error fault => (some (faultResponse server faultMessage fault), stores)
  | .ok request =>
      let (response, stores) := routeRequestSafely server request.toHttpRequest request.body stores
      (response.map fun response => putRequestIdHeader
        (textResponse response.status (contentTypeOf request.toHttpRequest) response.body) request.requestId, stores)

end Connection

end JsonRequest

end TelemetryFabric.ControlPlane
