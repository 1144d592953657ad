import TelemetryFabric.ControlPlane.RequestChecks

/-!
Mistakes of a client and how they are answered: which requests are refused as mistakes, with nothing
stored, and which are answered as failures of the server.
-/

namespace TelemetryFabric.ControlPlane
open Library Library.JsonText

namespace JsonRequest

/-! ### Answers -/

/-- The response is 200, or it is one that blames the client and nothing has been stored. Where the
process that a handler calls ends there is no response, and nothing has been stored either. -/
def BlamesClient {stores : Type} (before : stores) (outcome : Option Response × stores) : Prop :=
  match outcome.1 with
  | some response =>
      response.status = 200 ∨ (400 ≤ response.status ∧ response.status ≤ 499 ∧ outcome.2 = before)
  | none => outcome.2 = before

section Responses

variable {F : Type} {runtime : Runtime F}

theorem errorResponse_status (runtime : Runtime F) (error : RequestError F) :
    if error.isMistake then 400 ≤ (errorResponse runtime error).status ∧ (errorResponse runtime error).status ≤ 499
    else (errorResponse runtime error).status = 500 := by
  cases error <;> simp [RequestError.isMistake, errorResponse, response]

theorem failureResponse_status {failure : Failure F} {response : Response}
    (answered : failureResponse runtime failure = some response) :
    failure.IsMistake ↔ 400 ≤ response.status ∧ response.status ≤ 499 := by
  cases failure with
  | exited => cases answered
  | refused error =>
    cases answered
    have status := errorResponse_status runtime error
    split_ifs at status with mistake
    · exact iff_of_true mistake status
    · rw [status]
      exact iff_of_false mistake (by omega)
  | raised exception =>
    cases answered
    by_cases argument : exception.isArgument = true
    · simp [Failure.IsMistake, JsonRequest.response, argument]
    · simp [Failure.IsMistake, JsonRequest.response, argument]

theorem failureResponse_ne_ok {failure : Failure F} {response : Response}
    (answered : failureResponse runtime failure = some response) : response.status ≠ 200 := by
  cases failure with
  | exited => cases answered
  | refused error =>
    cases answered
    have status := errorResponse_status runtime error
    split_ifs at status <;> omega
  | raised exception =>
    cases answered
    simp only [JsonRequest.response]
    split_ifs <;> omega

/-- The answer blames the client where the program refuses with mistakes only. -/
theorem blamesClient_answer_iff [DecidableEq F] {program : Service runtime (Encodable F)} {before : Stores runtime.enumerate} :
    BlamesClient before (answer runtime (program before)) ↔ RefusesOnly Failure.IsMistake program before := by
  cases ran : program before with
  | ok body later =>
    apply iff_of_true
    · exact .inl rfl
    · intro failure last thrown
      rw [ran] at thrown
      cases thrown
  | error failure later =>
    cases answered : failureResponse runtime failure with
    | none =>
      have mistake : failure.IsMistake := by
        cases failure with
        | exited => trivial
        | refused error => cases answered
        | raised exception => cases answered
      simp only [BlamesClient, answer, answered]
      constructor
      · rintro same _ _ thrown
        rw [ran] at thrown
        cases thrown
        exact ⟨mistake, same⟩
      · intro only
        exact (only failure later ran).2
    | some response =>
      simp only [BlamesClient, answer, answered]
      constructor
      · rintro (fine | ⟨low, high, same⟩) _ _ thrown
        · exact absurd fine (failureResponse_ne_ok answered)
        · rw [ran] at thrown
          cases thrown
          exact ⟨(failureResponse_status answered).mpr ⟨low, high⟩, same⟩
      · intro only
        obtain ⟨mistake, same⟩ := only failure later ran
        obtain ⟨low, high⟩ := (failureResponse_status answered).mp mistake
        exact .inr ⟨low, high, same⟩

end Responses

section Conditions

/-! ### Requests that are answered so -/

variable {F : Type} [DecidableEq F]

/-- The version that a request for the configuration is offered. -/
structure Offered (runtime : Runtime F) (stores : Stores runtime.enumerate) (attrs : JsonObject F) (pipeline : RequestedPipeline F) :
    Prop where
  agentId : IsFilled (attr attrs "agent_id")
  tenantId : IsFilled (attr attrs "tenant_id")
  agent : ∃ agent, stores.getAgent (attr attrs "agent_id") = .ok agent ∧ attr attrs "tenant_id" = .string agent.tenantId ∧
    stores.getPipeline agent.tenantId (pipelineName attrs) = .ok pipeline
  newer : runtime.newer pipeline.version (attrOr attrs "current_version" (.integer 0)) = true

/-- What a handler asks of a request, beyond the checks that are answered as they should. -/
def Answerable (runtime : Runtime F) (stores : Stores runtime.enumerate) (attrs : JsonObject F) : Handler → Prop
  | .ackCommand => IsFilled (attr attrs "agent_id") → IsFilled (attr attrs "tenant_id") → IsFilled (attr attrs "command_id") →
      ∃ success, attr attrs "success" = .boolean success
  | .putPipeline => IsFilled (attr attrs "tenant_id") → IsFilled (pipelineName attrs) →
      ∀ receivers exporters routes, attrOr attrs "receivers" (.array []) = .array receivers → receivers ≠ [] →
        attrOr attrs "exporters" (.array []) = .array exporters → exporters ≠ [] →
          attrOr attrs "routes" (.array []) = .array routes → routes ≠ [] → Checkable runtime.enumerate exporters routes
  | .configUpdate => ∀ pipeline, Offered runtime stores attrs pipeline →
      ∀ exception, toAgentYaml runtime.enumerate runtime.precedes runtime.showFloat runtime.charlistError pipeline =
        .error exception → exception.isArgument = true
  | _ => True

/-- The body has no malformed bytes in a string, and what it stands for is an object. -/
def Acceptable (runtime : Runtime F) (stores : Stores runtime.enumerate) (handler : Handler) (body : Bytes) : Prop :=
  ¬Json.Stuck runtime.nearest (skipBlanks body) .value ∧
    ∀ value, decodeRequest runtime body = .ok value → ∃ attrs, value = .object attrs ∧ Answerable runtime stores attrs handler

end Conditions

/-! ### What handlers refuse with -/

section Handlers

variable {F : Type} [DecidableEq F] {runtime : Runtime F}

theorem append_returns (event : JsonEvent F) : AlwaysReturns (append runtime event) := AlwaysReturns.modify _

theorem register_returns (agentId tenantId : String) (attrs : JsonObject F) :
    AlwaysReturns (register runtime agentId tenantId attrs) :=
  (append_returns _).bind fun _ => AlwaysReturns.modify _

theorem enqueue_returns (command : JsonCommand F) : AlwaysReturns (enqueue runtime command) :=
  (AlwaysReturns.modify _).bind fun _ => append_returns _

theorem drain_returns (agentId : String) : AlwaysReturns (drain runtime agentId) := AlwaysReturns.modifyGet _

theorem storeVersion_returns (tenantId name : String) {config : RequestedPipeline F} (actor : Json F) (action : String)
    (metadata : List (String × JsonDatum F)) (valid : validate runtime.enumerate config = .ok ()) :
    AlwaysReturns (storeVersion runtime tenantId name config actor action metadata) := by
  unfold storeVersion
  apply AlwaysReturns.get.bind
  intro stores
  dsimp only
  -- validation does not look at the version
  have again : ∀ version, validate runtime.enumerate { config with version := version } = .ok () := fun _ => valid
  split
  next same =>
    apply (append_returns _).bind
    intro logged
    apply (AlwaysReturns.modify _).bind
    intro done
    apply AlwaysReturns.pure
  next error failed => exact nomatch (again _).symm.trans failed
  next failure other failed => exact nomatch (again _).symm.trans failed

theorem findVersion_valid {versions : List (StoredPipeline runtime.enumerate)} {target : Int} {config : RequestedPipeline F}
    (found : findVersion runtime versions target = .ok config) : validate runtime.enumerate config = .ok () := by
  unfold findVersion at found
  split at found
  next pipeline _ =>
    cases found
    exact pipeline.valid
  next => cases found

variable {stores : Stores runtime.enumerate} {attrs : JsonObject F} {allowed : Failure F → Prop}
  (mistakes : ∀ failure : Failure F, failure.IsMistake → allowed failure)

include mistakes

theorem registerAgent_refuses : RefusesOnly allowed (registerAgent runtime attrs) stores := by
  unfold registerAgent
  apply (RefusesOnly.given_bind_iff_of ((requireText_fails _).mono mistakes)).mpr
  intro agentId _
  apply (RefusesOnly.given_bind_iff_of ((requireText_fails _).mono mistakes)).mpr
  intro tenantId _
  apply RefusesOnly.of_alwaysReturns
  apply AlwaysReturns.get.bind
  intro stores
  apply (register_returns _ _ _).bind
  intro done
  apply AlwaysReturns.pure

theorem heartbeatAgent_refuses (agentId tenantId : String) :
    RefusesOnly allowed (heartbeatAgent runtime agentId tenantId attrs) stores := by
  unfold heartbeatAgent
  rw [RefusesOnly.get_bind_iff]
  apply (RefusesOnly.given_bind_iff_of ((getAgent_fails _ _).mono mistakes)).mpr
  intro agent _
  apply (RefusesOnly.given_bind_iff_of ((requireSameTenant_fails _ _).mono mistakes)).mpr
  intro same _
  apply RefusesOnly.of_alwaysReturns
  apply (AlwaysReturns.modify _).bind
  intro done
  apply AlwaysReturns.pure

theorem heartbeat_refuses : RefusesOnly allowed (heartbeat runtime attrs) stores := by
  unfold heartbeat
  apply (RefusesOnly.given_bind_iff_of ((requireText_fails _).mono mistakes)).mpr
  intro agentId _
  apply (RefusesOnly.given_bind_iff_of ((requireText_fails _).mono mistakes)).mpr
  intro tenantId _
  apply (heartbeatAgent_refuses mistakes _ _).andThen
  intro agent
  apply (drain_returns _).bind
  intro queued
  apply AlwaysReturns.get.bind
  intro stores
  apply AlwaysReturns.pure

theorem reportStatus_refuses : RefusesOnly allowed (reportStatus runtime attrs) stores := by
  unfold reportStatus
  apply (RefusesOnly.given_bind_iff_of ((requireText_fails _).mono mistakes)).mpr
  intro agentId _
  apply (RefusesOnly.given_bind_iff_of ((requireText_fails _).mono mistakes)).mpr
  intro tenantId _
  rw [RefusesOnly.get_bind_iff]
  apply (RefusesOnly.given_bind_iff_of ((getAgent_fails _ _).mono mistakes)).mpr
  intro agent _
  apply (RefusesOnly.given_bind_iff_of ((requireSameTenant_fails _ _).mono mistakes)).mpr
  intro same _
  apply RefusesOnly.of_alwaysReturns
  apply AlwaysReturns.pure

theorem enqueueCommand_refuses : RefusesOnly allowed (enqueueCommand runtime attrs) stores := by
  unfold enqueueCommand
  apply (RefusesOnly.given_bind_iff_of ((fetch_fails _ _).mono mistakes)).mpr
  intro agentId _
  apply (RefusesOnly.given_bind_iff_of ((commandKind_fails _).mono mistakes)).mpr
  intro kind _
  rw [RefusesOnly.get_bind_iff]
  apply (RefusesOnly.given_bind_iff_of ((getAgent_fails _ _).mono mistakes)).mpr
  intro agent _
  apply RefusesOnly.of_alwaysReturns
  apply (enqueue_returns _).bind
  intro done
  apply AlwaysReturns.pure

theorem rollbackPipeline_refuses : RefusesOnly allowed (rollbackPipeline runtime attrs) stores := by
  unfold rollbackPipeline
  apply (RefusesOnly.given_bind_iff_of ((requireText_fails _).mono mistakes)).mpr
  intro tenantId _
  apply (RefusesOnly.given_bind_iff_of ((requireText_fails _).mono mistakes)).mpr
  intro name _
  apply (RefusesOnly.given_bind_iff_of ((requirePositiveInteger_fails _ _).mono mistakes)).mpr
  intro targetVersion _
  rw [RefusesOnly.get_bind_iff]
  apply (RefusesOnly.given_bind_iff_of ((findVersion_fails _ _).mono mistakes)).mpr
  intro target found
  apply RefusesOnly.of_alwaysReturns
  apply (storeVersion_returns _ _ _ _ _ (findVersion_valid found)).bind
  intro pipeline
  apply AlwaysReturns.pure

theorem acknowledge_refuses (agentId commandId : String) (success : Bool) (message : Json F) :
    RefusesOnly allowed (acknowledge runtime agentId commandId success message) stores := by
  unfold acknowledge
  rw [RefusesOnly.get_bind_iff]
  dsimp only
  generalize List.filter (fun command => decide (command.commandId = commandId)) (stores.commandsOf agentId) = found
  rcases found with _ | ⟨command, _ | ⟨other, others⟩⟩
  · exact RefusesOnly.throw_iff.mpr (mistakes _ rfl)
  · apply RefusesOnly.of_alwaysReturns
    by_cases terminal : command.isTerminal = true
    · simp only [if_pos terminal]
      apply AlwaysReturns.pure
    · simp only [if_neg terminal]
      apply (AlwaysReturns.modify _).bind
      intro done
      apply (append_returns _).bind
      intro logged
      apply AlwaysReturns.pure
  · exact RefusesOnly.throw_iff.mpr (mistakes _ trivial)

/-! ### Handlers with other failures -/

theorem ackCommand_refuses_iff : RefusesOnly allowed (ackCommand runtime attrs) stores ↔
    (IsFilled (attr attrs "agent_id") → IsFilled (attr attrs "tenant_id") → IsFilled (attr attrs "command_id") →
      FailsOnly allowed (requireBoolean "success" (attr attrs "success"))) := by
  constructor
  · rintro only ⟨agentId, agentText⟩ ⟨tenantId, tenantText⟩ ⟨commandId, commandText⟩
    have first := (RefusesOnly.given_bind_iff.mp only).2 _ (requireText_eq_ok.mpr agentText)
    have second := (RefusesOnly.given_bind_iff.mp first).2 _ (requireText_eq_ok.mpr tenantText)
    have third := (RefusesOnly.given_bind_iff.mp second).2 _ (requireText_eq_ok.mpr commandText)
    exact (RefusesOnly.given_bind_iff.mp third).1
  · intro boolean
    unfold ackCommand
    apply (RefusesOnly.given_bind_iff_of ((requireText_fails _).mono mistakes)).mpr
    intro agentId agentText
    apply (RefusesOnly.given_bind_iff_of ((requireText_fails _).mono mistakes)).mpr
    intro tenantId tenantText
    apply (RefusesOnly.given_bind_iff_of ((requireText_fails _).mono mistakes)).mpr
    intro commandId commandText
    have fails := boolean (isFilled_of_requireText agentText) (isFilled_of_requireText tenantText)
      (isFilled_of_requireText commandText)
    apply (RefusesOnly.given_bind_iff_of fails).mpr
    intro success _
    rw [RefusesOnly.get_bind_iff]
    apply (RefusesOnly.given_bind_iff_of ((getAgent_fails _ _).mono mistakes)).mpr
    intro agent _
    apply (RefusesOnly.given_bind_iff_of ((requireSameTenant_fails _ _).mono mistakes)).mpr
    intro same _
    apply (acknowledge_refuses mistakes _ _ _ _).andThen
    intro command
    apply AlwaysReturns.pure

theorem putPipeline_refuses_iff : RefusesOnly allowed (putPipeline runtime attrs) stores ↔
    ∀ tenantId name, requireText (F := F) "tenant_id" (attr attrs "tenant_id") = .ok tenantId →
      requireText (F := F) "pipeline" (pipelineName attrs) = .ok name →
        FailsOnly allowed (validate runtime.enumerate (pipelineFromAttrs tenantId name attrs)) := by
  constructor
  · intro only tenantId name tenantText nameText
    have first := (RefusesOnly.given_bind_iff.mp only).2 _ tenantText
    have second := (RefusesOnly.given_bind_iff.mp first).2 _ nameText
    exact (RefusesOnly.given_bind_iff.mp second).1
  · intro fails
    unfold putPipeline
    apply (RefusesOnly.given_bind_iff_of ((requireText_fails _).mono mistakes)).mpr
    intro tenantId tenantText
    apply (RefusesOnly.given_bind_iff_of ((requireText_fails _).mono mistakes)).mpr
    intro name nameText
    apply (RefusesOnly.given_bind_iff_of (fails tenantId name tenantText nameText)).mpr
    intro done valid
    apply RefusesOnly.of_alwaysReturns
    apply (storeVersion_returns _ _ _ _ _ valid).bind
    intro pipeline
    apply AlwaysReturns.pure

theorem configUpdate_refuses_iff : RefusesOnly allowed (configUpdate runtime attrs) stores ↔
    ∀ pipeline, Offered runtime stores attrs pipeline → FailsOnly allowed
      (raises (toAgentYaml runtime.enumerate runtime.precedes runtime.showFloat runtime.charlistError pipeline)) := by
  constructor
  · rintro only pipeline ⟨⟨agentId, agentText⟩, ⟨tenantId, tenantText⟩, ⟨agent, found, same, offered⟩, newer⟩
    rw [agentText.1] at found
    rw [tenantText.1] at same
    cases same
    have first := (RefusesOnly.given_bind_iff.mp only).2 _ (requireText_eq_ok.mpr agentText)
    have second := (RefusesOnly.given_bind_iff.mp first).2 _ (requireText_eq_ok.mpr tenantText)
    have third := (RefusesOnly.given_bind_iff.mp (RefusesOnly.get_bind_iff.mp second)).2 _ found
    have fourth := (RefusesOnly.given_bind_iff.mp third).2 () (requireSameTenant_eq_ok.mpr rfl)
    have fifth := (RefusesOnly.given_bind_iff.mp fourth).2 _ offered
    rw [if_pos newer] at fifth
    exact (RefusesOnly.given_bind_iff.mp fifth).1
  · intro renders
    unfold configUpdate
    apply (RefusesOnly.given_bind_iff_of ((requireText_fails _).mono mistakes)).mpr
    intro agentId agentText
    apply (RefusesOnly.given_bind_iff_of ((requireText_fails _).mono mistakes)).mpr
    intro tenantId tenantText
    rw [RefusesOnly.get_bind_iff]
    apply (RefusesOnly.given_bind_iff_of ((getAgent_fails _ _).mono mistakes)).mpr
    intro agent found
    apply (RefusesOnly.given_bind_iff_of ((requireSameTenant_fails _ _).mono mistakes)).mpr
    intro done same
    apply (RefusesOnly.given_bind_iff_of ((getPipeline_fails _ _ _).mono mistakes)).mpr
    intro pipeline offered
    obtain rfl := requireSameTenant_eq_ok.mp same
    split_ifs with newer
    · have asked := (requireText_eq_ok.mp agentText).1
      rw [← asked] at found
      have fails := renders pipeline ⟨isFilled_of_requireText agentText, isFilled_of_requireText tenantText,
        ⟨agent, found, (requireText_eq_ok.mp tenantText).1, offered⟩, newer⟩
      apply (RefusesOnly.given_bind_iff_of fails).mpr
      intro payload _
      apply RefusesOnly.of_alwaysReturns
      apply AlwaysReturns.pure
    · apply RefusesOnly.of_alwaysReturns
      apply AlwaysReturns.pure

end Handlers

/-! ### Services -/

section Services

variable {F : Type} [DecidableEq F] {runtime : Runtime F} {stores : Stores runtime.enumerate} {attrs : JsonObject F}

/-- A request that fails leaves the stores as they were, however it fails. -/
theorem service_unchanged {handler : Handler} {service : JsonObject F → Service runtime (Encodable F)}
    (served : JsonRequest.service runtime handler = some service) : RefusesOnly (fun _ => True) (service attrs) stores := by
  have mistakes (failure : Failure F) (_ : failure.IsMistake) : True := trivial
  cases handler with
  | registerAgent =>
    cases served
    exact registerAgent_refuses mistakes
  | heartbeat =>
    cases served
    exact heartbeat_refuses mistakes
  | configUpdate =>
    cases served
    exact (configUpdate_refuses_iff mistakes).mpr fun _ _ _ _ => trivial
  | reportStatus =>
    cases served
    exact reportStatus_refuses mistakes
  | enqueueCommand =>
    cases served
    exact enqueueCommand_refuses mistakes
  | ackCommand =>
    cases served
    exact (ackCommand_refuses_iff mistakes).mpr fun _ _ _ _ _ => trivial
  | putPipeline =>
    cases served
    exact (putPipeline_refuses_iff mistakes).mpr fun _ _ _ _ _ _ => trivial
  | rollbackPipeline =>
    cases served
    exact rollbackPipeline_refuses mistakes
  | healthz => cases served
  | readyz => cases served
  | metrics => cases served

theorem putPipeline_answerable :
    RefusesOnly Failure.IsMistake (putPipeline runtime attrs) stores ↔ Answerable runtime stores attrs .putPipeline := by
  rw [putPipeline_refuses_iff fun _ mistake => mistake]
  constructor
  · rintro fails ⟨tenantId, tenantText⟩ ⟨name, nameText⟩
    have only := fails tenantId name (requireText_eq_ok.mpr tenantText) (requireText_eq_ok.mpr nameText)
    exact (validate_fails_iff tenantText.2 nameText.2).mp only
  · intro checkable tenantId name tenantText nameText
    apply (validate_fails_iff (requireText_eq_ok.mp tenantText).2 (requireText_eq_ok.mp nameText).2).mpr
    exact checkable (isFilled_of_requireText tenantText) (isFilled_of_requireText nameText)

theorem service_refuses_iff {handler : Handler} {service : JsonObject F → Service runtime (Encodable F)}
    (served : JsonRequest.service runtime handler = some service) :
    RefusesOnly Failure.IsMistake (service attrs) stores ↔ Answerable runtime stores attrs handler := by
  have mistakes (failure : Failure F) (mistake : failure.IsMistake) : failure.IsMistake := mistake
  cases handler with
  | registerAgent =>
    cases served
    exact iff_of_true (registerAgent_refuses mistakes) trivial
  | heartbeat =>
    cases served
    exact iff_of_true (heartbeat_refuses mistakes) trivial
  | configUpdate =>
    cases served
    simp only [configUpdate_refuses_iff mistakes, raises_fails_iff, Answerable]
  | reportStatus =>
    cases served
    exact iff_of_true (reportStatus_refuses mistakes) trivial
  | enqueueCommand =>
    cases served
    exact iff_of_true (enqueueCommand_refuses mistakes) trivial
  | ackCommand =>
    cases served
    simp only [ackCommand_refuses_iff mistakes, requireBoolean_fails_iff, Answerable]
  | putPipeline =>
    cases served
    exact putPipeline_answerable
  | rollbackPipeline =>
    cases served
    exact iff_of_true (rollbackPipeline_refuses mistakes) trivial
  | healthz => cases served
  | readyz => cases served
  | metrics => cases served

end Services

/-! ### Bodies and requests -/

section Requests

variable {F : Type}

theorem decodeRequest_fails_iff {runtime : Runtime F} {body : Bytes} :
    FailsOnly Failure.IsMistake (raises (decodeRequest runtime body) : Except (Failure F) (Json F)) ↔
      ¬Json.Stuck runtime.nearest (skipBlanks body) .value := by
  rw [raises_fails_iff, ← Json.decode_crashes_iff]
  unfold decodeRequest
  by_cases empty : body = []
  · rw [if_pos empty, empty]
    apply iff_of_true
    · intro exception failed
      cases failed
    · rintro ⟨failure, failed, other⟩
      cases failed
      cases other
  · rw [if_neg empty]
    cases decoded : Json.decode runtime.nearest body with
    | ok value =>
      apply iff_of_true
      · intro exception failed
        cases failed
      · rintro ⟨failure, failed, -⟩
        cases failed
    | error failure =>
      have kinds : (decodeException runtime failure).isArgument = failure.isArgumentError := by cases failure <;> rfl
      constructor
      · rintro argument ⟨_, ⟨⟩, other⟩
        rw [← kinds, argument _ rfl] at other
        cases other
      · rintro sound _ ⟨⟩
        rw [kinds]
        by_contra other
        exact sound ⟨failure, rfl, by simpa using other⟩

theorem handle_refuses_iff [DecidableEq F] {runtime : Runtime F} {stores : Stores runtime.enumerate} {handler : Handler}
    {service : JsonObject F → Service runtime (Encodable F)} (served : JsonRequest.service runtime handler = some service)
    (body : Bytes) :
    RefusesOnly Failure.IsMistake (handle runtime handler service body) stores ↔ Acceptable runtime stores handler body := by
  unfold handle Acceptable
  rw [RefusesOnly.given_bind_iff, decodeRequest_fails_iff]
  apply and_congr_right
  intro _
  apply forall_congr'
  intro value
  rw [raises_eq_ok]
  apply imp_congr_right
  intro _
  cases value with
  | object attrs =>
    show RefusesOnly Failure.IsMistake (service attrs) stores ↔ _
    rw [service_refuses_iff served]
    constructor
    · intro answerable
      exact ⟨attrs, rfl, answerable⟩
    · rintro ⟨_, ⟨⟩, answerable⟩
      exact answerable
  | _ =>
    apply iff_of_false
    · intro only
      cases handler <;> exact absurd (RefusesOnly.throw_iff.mp only) (by simp [Failure.IsMistake, noMap, Exception.isArgument])
    · rintro ⟨attrs, ⟨⟩, -⟩

/-- A refusal of the server itself is a mistake too. -/
def IsMistakeStatus (refusal : Refusal) : Prop := 400 ≤ refusal.status ∧ refusal.status ≤ 499

instance (refusal : Refusal) : Decidable (IsMistakeStatus refusal) := inferInstanceAs (Decidable (_ ∧ _))

theorem checkRateLimit_status {request : HttpRequest} {rateLimit : RateLimit} {count : Nat} {refusal : Refusal}
    (refused : checkRateLimit request rateLimit count = .error refusal) : IsMistakeStatus refusal := by
  unfold checkRateLimit at refused
  split_ifs at refused
  cases refused
  decide

theorem authorizeRole_status {text : TextFunctions} {request : HttpRequest} {security : SecurityOptions} {role : Role}
    {refusal : Refusal} (refused : authorizeRole text request security role = .error refusal) : IsMistakeStatus refusal := by
  unfold authorizeRole at refused
  cases role with
  | operator =>
    simp only at refused
    split_ifs at refused <;> cases refused <;> decide
  | agent =>
    simp only at refused
    split_ifs at refused <;> cases refused <;> decide
  | publicAccess =>
    simp only at refused
    split_ifs at refused <;> cases refused <;> decide

theorem authorize_status {text : TextFunctions} {request : HttpRequest} {security : SecurityOptions} {refusal : Refusal}
    (refused : authorize text request security = .error refusal) : IsMistakeStatus refusal := by
  unfold authorize at refused
  split_ifs at refused
  dsimp only at refused
  cases authorized : authorizeRole text request security (requiredRole (pathWithoutQuery text request.path)) with
  | ok done =>
    rw [authorized] at refused
    cases refused
  | error other =>
    rw [authorized] at refused
    cases refused
    exact authorizeRole_status authorized

theorem routeRequest_status {text : TextFunctions} {request : HttpRequest} {security : SecurityOptions} {rateLimit : RateLimit}
    {count : Nat} {refusal : Refusal} (refused : routeRequest text request security rateLimit count = .refused refusal) :
    IsMistakeStatus refusal := by
  unfold routeRequest at refused
  cases limited : checkRateLimit request rateLimit count with
  | error other =>
    rw [limited] at refused
    cases refused
    exact checkRateLimit_status limited
  | ok passed =>
    rw [limited] at refused
    simp only at refused
    cases authorized : authorize text request security with
    | error other =>
      rw [authorized] at refused
      cases refused
      exact authorize_status authorized
    | ok role =>
      rw [authorized] at refused
      simp only at refused
      have allowed : authorizeRbac role = .ok () := by cases role <;> rfl
      rw [allowed] at refused
      simp only [routeAuthorizedRequest] at refused
      split at refused
      · cases refused
      · cases refused
        decide

/-- The probes are asked with another method. -/
theorem service_of_post {text : TextFunctions} {path : Binary} {headerLines : List Binary} {security : SecurityOptions}
    {rateLimit : RateLimit} {count : Nat} {handler : Handler}
    (ran : routeRequest text (httpRequest text (utf8 "POST") path headerLines) security rateLimit count = .handled handler)
    [DecidableEq F] (runtime : Runtime F) : ∃ service, JsonRequest.service runtime handler = some service := by
  obtain ⟨-, route, listed, rfl, method, -⟩ := handled_eq ran
  have posted : ∀ route ∈ routes, utf8 route.method = utf8 "POST" →
      route.handler ≠ .healthz ∧ route.handler ≠ .readyz ∧ route.handler ≠ .metrics := by
    decide +kernel
  obtain ⟨health, ready, metrics⟩ := posted route listed method
  cases handler : route.handler with
  | healthz => exact absurd handler health
  | readyz => exact absurd handler ready
  | metrics => exact absurd handler metrics
  | _ => exact ⟨_, rfl⟩

/-- Whatever is posted, to whatever path and with whatever body, it is answered with 200, or as a
mistake of the client that leaves the stores as they were, exactly where no handler is reached or its
body is one that the handler can answer. -/
theorem blamesClient_iff [DecidableEq F] (server : Server F) (path : Binary) (headerLines : List Binary) (body : Bytes)
    (stores : Stores server.enumerate) :
    BlamesClient stores (routeRequestSafely server (httpRequest server.text (utf8 "POST") path headerLines) body stores) ↔
      ∀ handler, routeRequest server.text (httpRequest server.text (utf8 "POST") path headerLines) server.security
        server.rateLimit server.count = .handled handler → Acceptable server.toRuntime stores handler body := by
  unfold routeRequestSafely
  cases routed : routeRequest server.text (httpRequest server.text (utf8 "POST") path headerLines) server.security
      server.rateLimit server.count with
  | refused refusal =>
    apply iff_of_true
    · obtain ⟨low, high⟩ := routeRequest_status routed
      exact .inr ⟨low, high, rfl⟩
    · intro handler handled
      cases handled
  | handled handler =>
    obtain ⟨service, served⟩ := service_of_post routed server.toRuntime
    simp only [served]
    rw [blamesClient_answer_iff, handle_refuses_iff served]
    constructor
    · rintro acceptable _ ⟨⟩
      exact acceptable
    · intro acceptable
      exact acceptable handler rfl

/-- A language without floats, and a server without tokens. -/
def plainServer : Server Empty where
  nearest _ := none
  enumerate fields := fields
  enumerateMap entries := entries
  precedes _ _ := true
  compareFloat value _ := nomatch value
  showFloat value := nomatch value
  charlistError _ := .badArgument
  message _ := ""
  inspect _ := "\x7b:error, \x7b:invalid_boolean, :success, nil\x7d\x7d"
  iso8601 _ := ""
  sha256 _ := ""
  hmacSha256 _ _ := ""
  signingKey := none
  leaseMs := 30000
  now := 0
  unique draw := draw
  text := plainText
  security := ⟨none, none⟩
  rateLimit := ⟨false, 0⟩
  count := 1
  probe _ := ⟨200, []⟩

def emptyStores : Stores plainServer.enumerate := ⟨.empty, .empty, fun _ => [], []⟩

/-- An acknowledgement that does not say whether the command has succeeded. -/
theorem missing_success_blames_server : ¬BlamesClient emptyStores (routeRequestSafely plainServer
    (httpRequest plainText (utf8 "POST") (utf8 "/v1/agents/commands/ack") [])
    (utf8 "\x7b\"agent_id\":\"a\",\"tenant_id\":\"t\",\"command_id\":\"c\"\x7d") emptyStores) := by
  have status : ((routeRequestSafely plainServer (httpRequest plainText (utf8 "POST") (utf8 "/v1/agents/commands/ack") [])
      (utf8 "\x7b\"agent_id\":\"a\",\"tenant_id\":\"t\",\"command_id\":\"c\"\x7d") emptyStores).1.map Response.status) =
        some 500 := by
    decide +kernel
  obtain ⟨response, answered, same⟩ := Option.map_eq_some_iff.mp status
  unfold BlamesClient
  rw [answered]
  rintro (fine | ⟨-, high, -⟩)
  · omega
  · omega

end Requests

end JsonRequest

end TelemetryFabric.ControlPlane
