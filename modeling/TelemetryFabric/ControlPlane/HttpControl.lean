import TelemetryFabric.Library.Utf8
import Mathlib.Data.List.Basic
import Mathlib.Data.List.Induction
import Mathlib.Logic.Function.Basic

/-!
Which requests reach which handlers of the HTTP server of the control plane. Text is handled as
bytes; what `String.trim`, `String.downcase` and `URI.parse` make of them is left open.
-/

namespace TelemetryFabric.ControlPlane
open Library

abbrev Binary := List UInt8

structure TextFunctions where
  trim : Binary → Binary
  downcase : Binary → Binary
  uriPath : Binary → Option Binary

/-! ### Requests -/

/-- A map with the value under its key replaced. -/
def putHeader (headers : Binary → Option Binary) (name value : Binary) : Binary → Option Binary :=
  fun key => if key = name then some value else headers key

/-- `String.split(line, ":", parts: 2)`, where it gives two parts. -/
def splitHeader (line : Binary) : Option (Binary × Binary) :=
  match line.dropWhile (· != 58) with
  | _ :: value => some (line.takeWhile (· != 58), value)
  | [] => none

section Headers

variable (text : TextFunctions)

def parseHeaders (headerLines : List Binary) : Binary → Option Binary :=
  headerLines.foldl (fun headers line =>
    match splitHeader line with
    | some (name, value) => putHeader headers (text.downcase (text.trim name)) (text.trim value)
    | none => headers) fun _ => none

/-- The value of the last header with a name. -/
def lastHeader (headerLines : List Binary) (name : Binary) : Option Binary :=
  headerLines.reverse.findSome? fun line =>
    match splitHeader line with
    | some (given, value) => if text.downcase (text.trim given) = name then some (text.trim value) else none
    | none => none

theorem parseHeaders_eq (headerLines : List Binary) (name : Binary) :
    parseHeaders text headerLines name = lastHeader text headerLines name := by
  unfold parseHeaders lastHeader
  induction headerLines using List.reverseRecOn with
  | nil => rfl
  | append_singleton before line ih =>
    rw [List.foldl_append, List.reverse_append, List.reverse_singleton, List.singleton_append,
      List.foldl_cons, List.foldl_nil, List.findSome?_cons]
    cases splitHeader line with
    | none => exact ih
    | some parts =>
      simp only [putHeader]
      by_cases same : text.downcase (text.trim parts.1) = name
      · rw [if_pos same.symm, if_pos same]
      · rw [if_neg (Ne.symm same), if_neg same]
        exact ih

end Headers

structure HttpRequest where
  method : Binary
  path : Binary
  headers : Binary → Option Binary

def httpRequest (text : TextFunctions) (method path : Binary) (headerLines : List Binary) : HttpRequest :=
  ⟨method, path, parseHeaders text headerLines⟩

/-! ### Tokens -/

structure SecurityOptions where
  agentToken : Option Binary
  operatorToken : Option Binary

def blankToNil : Option Binary → Option Binary
  | some [] => none
  | value => value

def securityOptions (options : SecurityOptions) : SecurityOptions :=
  ⟨blankToNil options.agentToken, blankToNil options.operatorToken⟩

def constantTimeEqual (left right : Binary) : Bool :=
  (left.zip right).foldl (fun total pair => total ||| (pair.1 ^^^ pair.2)) 0 == 0

def tokenMatches : Option Binary → Option Binary → Bool
  | some token, some expected => token.length == expected.length && constantTimeEqual token expected
  | _, _ => false

def bearerToken (text : TextFunctions) (headers : Binary → Option Binary) : Option Binary :=
  match headers (utf8 "authorization") with
  | some value =>
      if (utf8 "Bearer ").isPrefixOf value then some (text.trim (value.drop (utf8 "Bearer ").length)) else none
  | none => none

/-! ### Authorization -/

inductive Role where
  | publicAccess
  | agent
  | operator
  deriving DecidableEq

/-- A response without a handler: its status and its error. -/
structure Refusal where
  status : Nat
  error : String
  deriving DecidableEq

section Authorize

variable (text : TextFunctions)

def publicPaths : List Binary := ["/healthz", "/readyz", "/metrics"].map utf8

def operatorPaths : List Binary := ["/v1/agents/commands", "/v1/pipelines", "/v1/pipelines/rollback"].map utf8

/-- `request.method == "GET"`, with a path that is open to all. -/
def HttpRequest.isPublic (request : HttpRequest) : Bool :=
  request.method == utf8 "GET" && publicPaths.contains request.path

def pathWithoutQuery (path : Binary) : Binary := (text.uriPath path).getD path

def requiredRole (path : Binary) : Role := if operatorPaths.contains path then .operator else .agent

def authorizeRole (request : HttpRequest) (security : SecurityOptions) : Role → Except Refusal Unit
  | .operator =>
      let token := bearerToken text request.headers
      if tokenMatches token security.operatorToken then .ok ()
      else if security.operatorToken.isNone && security.agentToken.isNone then .ok ()
      else if security.operatorToken.isNone then .error ⟨403, "operator_token_not_configured"⟩
      else if token.isNone then .error ⟨401, "missing_bearer_token"⟩
      else .error ⟨403, "invalid_bearer_token"⟩
  | _ =>
      let token := bearerToken text request.headers
      if tokenMatches token security.operatorToken then .ok ()
      else if tokenMatches token security.agentToken then .ok ()
      else if security.agentToken.isNone && security.operatorToken.isNone then .ok ()
      else if token.isNone then .error ⟨401, "missing_bearer_token"⟩
      else .error ⟨403, "invalid_bearer_token"⟩

def authorize (request : HttpRequest) (security : SecurityOptions) : Except Refusal Role :=
  if request.isPublic then .ok .publicAccess
  else
    let role := requiredRole (pathWithoutQuery text request.path)
    match authorizeRole text request security role with
    | .ok () => .ok role
    | .error refusal => .error refusal

def authorizeRbac : Role → Except Refusal Unit
  | .publicAccess => .ok ()
  | .agent => .ok ()
  | .operator => .ok ()

structure RateLimit where
  enabled : Bool
  perSecond : Nat

/-- `count` is the counter of the method, the path and the second behind this request. -/
def checkRateLimit (request : HttpRequest) (rateLimit : RateLimit) (count : Nat) : Except Refusal Unit :=
  if request.isPublic then .ok ()
  else if !rateLimit.enabled then .ok ()
  else if rateLimit.perSecond < count then .error ⟨429, "rate_limited"⟩
  else .ok ()

end Authorize

/-! ### Routing -/

inductive Handler where
  | healthz
  | readyz
  | metrics
  | registerAgent
  | heartbeat
  | configUpdate
  | reportStatus
  | enqueueCommand
  | ackCommand
  | putPipeline
  | rollbackPipeline
  deriving DecidableEq

structure Route where
  method : String
  path : String
  handler : Handler

/-- The clauses of `route_authorized_request`. -/
def routes : List Route :=
  [⟨"GET", "/healthz", .healthz⟩, ⟨"GET", "/readyz", .readyz⟩, ⟨"GET", "/metrics", .metrics⟩,
    ⟨"POST", "/v1/agents/register", .registerAgent⟩, ⟨"POST", "/v1/agents/heartbeat", .heartbeat⟩,
    ⟨"POST", "/v1/agents/config", .configUpdate⟩, ⟨"POST", "/v1/agents/status", .reportStatus⟩,
    ⟨"POST", "/v1/agents/commands", .enqueueCommand⟩, ⟨"POST", "/v1/agents/commands/ack", .ackCommand⟩,
    ⟨"POST", "/v1/pipelines", .putPipeline⟩, ⟨"POST", "/v1/pipelines/rollback", .rollbackPipeline⟩]

/-- What a request comes to: a handler runs, or the server answers itself. -/
inductive RouteOutcome where
  | handled (handler : Handler)
  | refused (refusal : Refusal)
  deriving DecidableEq

def routeAuthorizedRequest (request : HttpRequest) : RouteOutcome :=
  match routes.find? fun route => utf8 route.method = request.method ∧ utf8 route.path = request.path with
  | some route => .handled route.handler
  | none => .refused ⟨404, "not_found"⟩

def routeRequest (text : TextFunctions) (request : HttpRequest) (security : SecurityOptions) (rateLimit : RateLimit)
    (count : Nat) : RouteOutcome :=
  match checkRateLimit request rateLimit count with
  | .error refusal => .refused refusal
  | .ok () =>
      match authorize text request security with
      | .error refusal => .refused refusal
      | .ok role =>
          match authorizeRbac role with
          | .error refusal => .refused refusal
          | .ok () => routeAuthorizedRequest request

/-! ### Who gets to a handler -/

/-- Enqueue commands, publish pipelines and roll them back. -/
def Handler.isOperator : Handler → Bool
  | .enqueueCommand | .putPipeline | .rollbackPipeline => true
  | _ => false

def Handler.isAgent : Handler → Bool
  | .registerAgent | .heartbeat | .configUpdate | .reportStatus | .ackCommand => true
  | _ => false

/-- The last authorization header is the word and, but for space around it, the token. -/
def Bears (text : TextFunctions) (headerLines : List Binary) (token : Binary) : Prop :=
  ∃ rest, lastHeader text headerLines (utf8 "authorization") = some (utf8 "Bearer " ++ rest) ∧ text.trim rest = token

theorem foldl_or_eq_zero (pairs : List (UInt8 × UInt8)) (total : UInt8) :
    pairs.foldl (fun total pair => total ||| (pair.1 ^^^ pair.2)) total = 0 ↔
      total = 0 ∧ ∀ pair ∈ pairs, pair.1 = pair.2 := by
  induction pairs generalizing total with
  | nil => simp
  | cons pair rest ih =>
    rw [List.foldl_cons, ih, UInt8.or_eq_zero_iff, UInt8.xor_eq_zero_iff, List.forall_mem_cons, and_assoc]

/-- The comparison without a branch compares. -/
theorem constantTimeEqual_iff {left right : Binary} (size : left.length = right.length) :
    constantTimeEqual left right = true ↔ left = right := by
  unfold constantTimeEqual
  rw [beq_iff_eq, foldl_or_eq_zero, and_iff_right rfl]
  constructor
  · intro same
    apply List.ext_getElem size
    intro n inLeft inRight
    have paired : n < (left.zip right).length := by
      rw [List.length_zip]
      omega
    have here := same _ (List.getElem_mem paired)
    rwa [List.getElem_zip] at here
  · intro same pair member
    rw [same] at member
    obtain ⟨n, inside, found⟩ := List.getElem_of_mem member
    rw [← found, List.getElem_zip]

theorem tokenMatches_iff {token expected : Option Binary} :
    tokenMatches token expected = true ↔ ∃ bytes, token = some bytes ∧ expected = some bytes := by
  cases token with
  | none => exact iff_of_false Bool.false_ne_true fun ⟨_, absent, _⟩ => nomatch absent
  | some token =>
    cases expected with
    | none => exact iff_of_false Bool.false_ne_true fun ⟨_, _, absent⟩ => nomatch absent
    | some expected =>
      simp only [tokenMatches, Bool.and_eq_true, beq_iff_eq]
      constructor
      · intro ⟨size, equal⟩
        have same := (constantTimeEqual_iff size).mp equal
        exact ⟨token, rfl, congrArg some same.symm⟩
      · intro ⟨bytes, left, right⟩
        have same : token = expected := Option.some.inj (left.trans right.symm)
        have size := congrArg List.length same
        exact ⟨size, (constantTimeEqual_iff size).mpr same⟩

section Authorized

variable {text : TextFunctions} {method path : Binary} {headerLines : List Binary} {security : SecurityOptions}

theorem bearerToken_eq_some {token : Binary}
    (read : bearerToken text (parseHeaders text headerLines) = some token) : Bears text headerLines token := by
  unfold bearerToken at read
  rw [parseHeaders_eq] at read
  cases found : lastHeader text headerLines (utf8 "authorization") with
  | none =>
    rw [found] at read
    cases read
  | some value =>
    rw [found] at read
    simp only at read
    split_ifs at read with bearer
    rw [List.isPrefixOf_iff_prefix] at bearer
    obtain ⟨rest, split⟩ := bearer
    rw [← split, List.drop_left] at read
    exact ⟨rest, found.trans (congrArg some split.symm), Option.some.inj read⟩

/-- The token of the request is a configured one. -/
theorem bears_of_tokenMatches {expected : Option Binary}
    (matched : tokenMatches (bearerToken text (parseHeaders text headerLines)) expected = true) :
    ∃ token, expected = some token ∧ Bears text headerLines token := by
  obtain ⟨token, read, same⟩ := tokenMatches_iff.mp matched
  exact ⟨token, same, bearerToken_eq_some read⟩

/-- No token is configured. -/
def SecurityOptions.Open (security : SecurityOptions) : Prop :=
  security.operatorToken = none ∧ security.agentToken = none

theorem authorizeRole_operator
    (passed : authorizeRole text (httpRequest text method path headerLines) security .operator = .ok ()) :
    security.Open ∨ ∃ token, security.operatorToken = some token ∧ Bears text headerLines token := by
  simp only [authorizeRole] at passed
  split_ifs at passed with operator free
  · exact Or.inr (bears_of_tokenMatches operator)
  · rw [Bool.and_eq_true, Option.isNone_iff_eq_none, Option.isNone_iff_eq_none] at free
    exact Or.inl free

theorem authorizeRole_agent
    (passed : authorizeRole text (httpRequest text method path headerLines) security .agent = .ok ()) :
    security.Open ∨ ∃ token, (security.operatorToken = some token ∨ security.agentToken = some token) ∧
      Bears text headerLines token := by
  simp only [authorizeRole] at passed
  split_ifs at passed with operator agent free
  · obtain ⟨token, same, bears⟩ := bears_of_tokenMatches operator
    exact Or.inr ⟨token, Or.inl same, bears⟩
  · obtain ⟨token, same, bears⟩ := bears_of_tokenMatches agent
    exact Or.inr ⟨token, Or.inr same, bears⟩
  · rw [Bool.and_eq_true, Option.isNone_iff_eq_none, Option.isNone_iff_eq_none] at free
    exact Or.inl free.symm

/-- A handler runs for its own method and path, and after the role of the path has been authorized. -/
theorem handled_eq {request : HttpRequest} {rateLimit : RateLimit} {count : Nat} {handler : Handler}
    (ran : routeRequest text request security rateLimit count = .handled handler) :
    (∃ role, authorize text request security = .ok role) ∧
      ∃ route ∈ routes, route.handler = handler ∧ utf8 route.method = request.method ∧
        utf8 route.path = request.path := by
  unfold routeRequest at ran
  cases limited : checkRateLimit request rateLimit count with
  | error refusal =>
    rw [limited] at ran
    cases ran
  | ok passed =>
    rw [limited] at ran
    simp only at ran
    cases authorized : authorize text request security with
    | error refusal =>
      rw [authorized] at ran
      cases ran
    | ok role =>
      rw [authorized] at ran
      simp only at ran
      have allowed : authorizeRbac role = .ok () := by cases role <;> rfl
      rw [allowed] at ran
      simp only [routeAuthorizedRequest] at ran
      cases found : routes.find? fun route => utf8 route.method = request.method ∧ utf8 route.path = request.path with
      | none =>
        rw [found] at ran
        cases ran
      | some route =>
        rw [found] at ran
        cases ran
        have named := List.find?_some found
        rw [decide_eq_true_iff] at named
        exact ⟨⟨role, rfl⟩, route, List.mem_of_find?_eq_some found, rfl, named⟩

/-- A request that is not open to all has the role of its path. -/
theorem authorizeRole_of_authorize {request : HttpRequest} {role : Role}
    (authorized : authorize text request security = .ok role) (method : request.method ≠ utf8 "GET")
    (literal : text.uriPath request.path = some request.path) :
    authorizeRole text request security (requiredRole request.path) = .ok () := by
  have closed : request.isPublic = false := by
    unfold HttpRequest.isPublic
    rw [beq_eq_false_iff_ne.mpr method, Bool.false_and]
  have raw : pathWithoutQuery text request.path = request.path := by
    unfold pathWithoutQuery
    rw [literal, Option.getD_some]
  simp only [authorize, closed, Bool.false_eq_true, if_false, raw] at authorized
  cases passed : authorizeRole text request security (requiredRole request.path) with
  | error refusal =>
    rw [passed] at authorized
    cases authorized
  | ok done => rfl

/-- The routes of the operator and those of the agent: the method is not one that is open to all, and
the path has the role. -/
theorem routes_roles : ∀ route ∈ routes,
    (route.handler.isOperator = true → utf8 route.method ≠ utf8 "GET" ∧ requiredRole (utf8 route.path) = .operator) ∧
    (route.handler.isAgent = true → utf8 route.method ≠ utf8 "GET" ∧ requiredRole (utf8 route.path) = .agent) := by
  decide +kernel

end Authorized

/-- Whatever tokens are configured and whatever the request: the handlers of the operator run only
for the operator token, and those of the agent only for one of the two, unless there is none. -/
theorem handlers_authorized {text : TextFunctions}
    (literal : ∀ route ∈ routes, text.uriPath (utf8 route.path) = some (utf8 route.path)) (options : SecurityOptions)
    (rateLimit : RateLimit) (count : Nat) (method path : Binary) (headerLines : List Binary) {handler : Handler}
    (ran : routeRequest text (httpRequest text method path headerLines) (securityOptions options) rateLimit count =
      .handled handler) :
    (handler.isOperator = true → (securityOptions options).Open ∨
      ∃ token, (securityOptions options).operatorToken = some token ∧ Bears text headerLines token) ∧
    (handler.isAgent = true → (securityOptions options).Open ∨
      ∃ token, ((securityOptions options).operatorToken = some token ∨
        (securityOptions options).agentToken = some token) ∧ Bears text headerLines token) := by
  obtain ⟨⟨role, authorized⟩, route, listed, named, given, raw⟩ := handled_eq ran
  have roles := routes_roles route listed
  have parsed := literal route listed
  rw [named, given, raw] at roles
  rw [raw] at parsed
  constructor
  · intro operator
    obtain ⟨closed, required⟩ := roles.1 operator
    have passed := authorizeRole_of_authorize authorized closed parsed
    rw [required] at passed
    exact authorizeRole_operator passed
  · intro agent
    obtain ⟨closed, required⟩ := roles.2 agent
    have passed := authorizeRole_of_authorize authorized closed parsed
    rw [required] at passed
    exact authorizeRole_agent passed

/-- Text without anything but ASCII in it, and paths without a scheme or a host. -/
def plainText : TextFunctions where
  trim bytes := ((bytes.dropWhile (· == 32)).reverse.dropWhile (· == 32)).reverse
  downcase bytes := bytes.map fun byte => if 65 ≤ byte ∧ byte ≤ 90 then byte + 32 else byte
  uriPath bytes := some (bytes.takeWhile fun byte => byte != 63 && byte != 35)

def tokens : SecurityOptions := ⟨some (utf8 "agent-token"), some (utf8 "operator-token")⟩

theorem handlers_authorized_rollback :
    ∃ token, (securityOptions tokens).operatorToken = some token ∧
      Bears plainText
        (["Authorization: Bearer agent-token", "authorization : Bearer  operator-token "].map utf8) token := by
  have ran : routeRequest plainText (httpRequest plainText (utf8 "POST") (utf8 "/v1/pipelines/rollback")
      (["Authorization: Bearer agent-token", "authorization : Bearer  operator-token "].map utf8))
      (securityOptions tokens) ⟨true, 5⟩ 3 = .handled .rollbackPipeline := by
    decide +kernel
  have authorized := (handlers_authorized (by decide +kernel) tokens ⟨true, 5⟩ 3 _ _ _ ran).1 rfl
  apply authorized.resolve_left
  intro free
  exact absurd free.1 (by decide +kernel)

end TelemetryFabric.ControlPlane
