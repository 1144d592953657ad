import TelemetryFabric.ControlPlane.RequestHandlers
import TelemetryFabric.Library.Collect

/-!
The checks of a request and how they fail. Most errors have a clause of `error_response`, and
`ArgumentError` and `KeyError` are rescued as mistakes; the other errors and exceptions are answered
as failures of the server.
-/

namespace TelemetryFabric.ControlPlane
open Library Library.JsonText

/-! ### Mistakes -/

/-- The errors with a clause of their own in `error_response`. -/
def RequestError.isMistake {F : Type} : RequestError F → Bool
  | .invalidBoolean _ _ => false
  | .invalidVersion _ => false
  | .unknownExporter _ => false
  | _ => true

/-- The failure is answered as a mistake of the client, or not at all. -/
def Failure.IsMistake {F : Type} : Failure F → Prop
  | .refused error => error.isMistake = true
  | .raised exception => exception.isArgument = true
  | .exited => True

namespace JsonRequest

/-! ### Checks -/

section Checks

variable {F : Type}

/-- A string with something in it. -/
def IsFilled (value : Json F) : Prop := ∃ text, value = .string text ∧ isBlank text = false

theorem requireText_eq_ok {field : String} {value : Json F} {text : String} :
    requireText field value = .ok text ↔ value = .string text ∧ isBlank text = false := by
  cases value with
  | string given =>
    rw [requireText]
    split_ifs with blank
    · constructor
      · intro made
        cases made
      · rintro ⟨⟨⟩, filled⟩
        rw [blank] at filled
        cases filled
    · constructor
      · rintro ⟨⟩
        exact ⟨rfl, by simpa using blank⟩
      · rintro ⟨⟨⟩, -⟩
        rfl
  | _ => exact ⟨fun made => (nomatch made), fun made => (nomatch made.1)⟩

theorem isFilled_of_requireText {field text : String} {value : Json F} (read : requireText field value = .ok text) : IsFilled value :=
  ⟨text, requireText_eq_ok.mp read⟩

theorem requireText_fails {field : String} (value : Json F) : FailsOnly Failure.IsMistake (requireText field value) := by
  intro failure failed
  cases value with
  | string given =>
    rw [requireText] at failed
    split_ifs at failed
    cases failed
    rfl
  | _ =>
    cases failed
    rfl

theorem requireNonEmpty_eq_ok {field : String} {value : Json F} {items : List (Json F)} :
    requireNonEmpty field value = .ok items ↔ value = .array items ∧ items ≠ [] := by
  cases value with
  | array given =>
    cases given with
    | nil =>
      constructor
      · intro made
        cases made
      · rintro ⟨⟨⟩, filled⟩
        exact absurd rfl filled
    | cons first rest =>
      constructor
      · rintro ⟨⟩
        exact ⟨rfl, List.cons_ne_nil _ _⟩
      · rintro ⟨⟨⟩, -⟩
        rfl
  | _ => exact ⟨fun made => (nomatch made), fun made => (nomatch made.1)⟩

theorem requireNonEmpty_fails {field : String} (value : Json F) : FailsOnly Failure.IsMistake (requireNonEmpty field value) := by
  intro failure failed
  cases value with
  | array given =>
    cases given with
    | nil =>
      cases failed
      rfl
    | cons first rest => cases failed
  | _ =>
    cases failed
    rfl

theorem requireSameTenant_fails (agent : JsonAgent F) (tenantId : String) :
    FailsOnly Failure.IsMistake (requireSameTenant agent tenantId) := by
  intro failure failed
  unfold requireSameTenant at failed
  split_ifs at failed
  cases failed
  rfl

theorem requireSameTenant_eq_ok {agent : JsonAgent F} {tenantId : String} :
    requireSameTenant agent tenantId = .ok () ↔ agent.tenantId = tenantId := by
  unfold requireSameTenant
  split_ifs with same
  · exact iff_of_true rfl same
  · exact iff_of_false (fun made => nomatch made) same

theorem requirePositiveInteger_fails (field : String) (value : Json F) :
    FailsOnly Failure.IsMistake (requirePositiveInteger field value) := by
  intro failure failed
  cases value with
  | integer given =>
    rw [requirePositiveInteger] at failed
    split_ifs at failed
    cases failed
    rfl
  | _ =>
    cases failed
    rfl

/-- Nothing but a boolean is a mistake that has no clause. -/
theorem requireBoolean_fails_iff (field : String) (value : Json F) :
    FailsOnly Failure.IsMistake (requireBoolean field value) ↔ ∃ success, value = .boolean success := by
  cases value with
  | boolean success => exact iff_of_true (FailsOnly.ok success) ⟨success, rfl⟩
  | _ => exact ⟨fun only => (nomatch only _ rfl), fun ⟨_, same⟩ => (nomatch same)⟩

theorem commandKind_fails (kind : Json F) : FailsOnly Failure.IsMistake (commandKind kind) := by
  intro failure failed
  unfold commandKind at failed
  split at failed <;> cases failed
  rfl

theorem fetch_fails (attrs : JsonObject F) (field : String) : FailsOnly Failure.IsMistake (fetch attrs field) := by
  intro failure failed
  unfold fetch at failed
  split at failed <;> cases failed
  rfl

variable [DecidableEq F] {enumerate : JsonObject F → JsonObject F} (stores : Stores enumerate)

theorem getAgent_fails (agentId : Json F) : FailsOnly Failure.IsMistake (stores.getAgent agentId) := by
  intro failure failed
  cases agentId with
  | string agentId =>
    rw [Stores.getAgent] at failed
    split at failed <;> cases failed
    rfl
  | _ =>
    cases failed
    rfl

theorem getPipeline_fails (tenantId : String) (name : Json F) : FailsOnly Failure.IsMistake (stores.getPipeline tenantId name) := by
  intro failure failed
  unfold Stores.getPipeline at failed
  split at failed <;> cases failed
  rfl

theorem findVersion_fails {runtime : Runtime F} (versions : List (StoredPipeline runtime.enumerate)) (target : Int) :
    FailsOnly Failure.IsMistake (findVersion runtime versions target) := by
  intro failure failed
  unfold findVersion at failed
  split at failed <;> cases failed
  rfl

end Checks

/-! ### Validation -/

section Conditions

variable (enumerate : JsonObject F → JsonObject F)

def IsObject (value : Json F) : Prop := ∃ fields, value = .object fields

/-- A route is an object, and its exporters are a list, an object or missing. -/
def IsRoute (route : Json F) : Prop :=
  ∃ fields, route = .object fields ∧ ∀ value, JsonPipeline.get fields "exporters" = some value →
    IsObject value ∨ ∃ items, value = .array items

def nameOf : Json F → Json F
  | .object fields => JsonPipeline.getOrNull fields "name"
  | _ => .null

/-- What a route lists. -/
def exportersOf : Json F → List (Enumerated F)
  | .object fields => match JsonPipeline.get fields "exporters" with
      | some (.array items) => items.map .item
      | some (.object entries) => (enumerate entries).map fun field => .entry field.1 field.2
      | _ => []
  | _ => []

/-- Exporters and routes are what the validation takes them for, and the first exporter of a route
that has no definition is null, if there is one. -/
structure Checkable [DecidableEq F] (exporters routes : List (Json F)) : Prop where
  objects : ∀ exporter ∈ exporters, IsObject exporter
  shaped : ∀ route ∈ routes, IsRoute route
  named : ∀ exporter, (routes.flatMap (exportersOf enumerate)).find?
    (fun exporter => !isExporterName (exporters.map nameOf) exporter) = some exporter → exporter = .item .null

end Conditions

section Validation

variable {F α : Type}

theorem raises_eq_ok {result : Except Exception α} {value : α} :
    (raises result : Except (Failure F) α) = .ok value ↔ result = .ok value := by
  cases result with
  | ok given =>
    constructor
    · rintro ⟨⟩
      rfl
    · rintro ⟨⟩
      rfl
  | error exception => exact ⟨fun made => (nomatch made), fun made => (nomatch made)⟩

theorem raises_fails_iff {result : Except Exception α} :
    FailsOnly Failure.IsMistake (raises result : Except (Failure F) α) ↔
      ∀ exception, result = .error exception → exception.isArgument = true := by
  cases result with
  | ok given => exact iff_of_true (FailsOnly.ok given) fun _ failed => nomatch failed
  | error exception =>
    constructor
    · rintro only _ ⟨⟩
      exact only (.raised exception) rfl
    · rintro argument _ ⟨⟩
      exact argument exception rfl

/-- Where an item raises no `ArgumentError`, all of them have to go through. -/
theorem raises_mapM_fails_iff {items : List (Json F)} {f : Json F → Except Exception α}
    (other : ∀ item exception, f item = .error exception → exception.isArgument = false) :
    FailsOnly Failure.IsMistake (raises (items.mapM f) : Except (Failure F) (List α)) ↔
      ∀ item ∈ items, ∃ result, f item = .ok result := by
  rw [raises_fails_iff]
  cases collected : items.mapM f with
  | ok results =>
    apply iff_of_true
    · intro exception failed
      cases failed
    · exact exists_forall₂_iff.mp ⟨results, mapM_eq_ok_iff.mp collected⟩
  | error exception =>
    obtain ⟨item, member, failed⟩ := exists_of_mapM_eq_error collected
    apply iff_of_false
    · intro only
      have argument := only exception rfl
      rw [other item exception failed] at argument
      cases argument
    · intro each
      obtain ⟨result, made⟩ := each item member
      rw [failed] at made
      cases made

theorem mapGet_eq_error {key : String} {value : Json F} {exception : Exception} (failed : mapGet key value = .error exception) :
    exception = .badMapError := by
  cases value <;> cases failed
  all_goals rfl

theorem mapGetOrNull_eq_error {key : String} {value : Json F} {exception : Exception}
    (failed : mapGetOrNull key value = .error exception) : exception = .badMapError := by
  unfold mapGetOrNull at failed
  cases found : mapGet key value with
  | ok field =>
    rw [found] at failed
    cases failed
  | error other =>
    rw [found] at failed
    cases failed
    exact mapGet_eq_error found

theorem mapGetOrNull_name {value : Json F} (fields : IsObject value) : mapGetOrNull "name" value = .ok (nameOf value) := by
  obtain ⟨fields, rfl⟩ := fields
  rfl

theorem isObject_of_mapGetOrNull {key : String} {value name : Json F} (found : mapGetOrNull key value = .ok name) :
    IsObject value := by
  cases value with
  | object fields => exact ⟨fields, rfl⟩
  | _ => cases found

variable {enumerate : JsonObject F → JsonObject F}

theorem enumerated_eq_error {value : Json F} {exception : Exception} (failed : enumerated enumerate value = .error exception) :
    exception = .protocolUndefinedError := by
  cases value <;> cases failed
  all_goals rfl

theorem listedExporters_eq_error {route : Json F} {exception : Exception}
    (failed : listedExporters enumerate route = .error exception) : exception.isArgument = false := by
  unfold listedExporters at failed
  cases found : mapGet "exporters" route with
  | error other =>
    rw [found] at failed
    cases failed
    rw [mapGet_eq_error found]
    rfl
  | ok field =>
    rw [found] at failed
    cases field with
    | none => cases failed
    | some value =>
      rw [enumerated_eq_error (show enumerated enumerate value = _ from failed)]
      rfl

theorem listedExporters_of_isRoute {route : Json F} (shaped : IsRoute route) :
    listedExporters enumerate route = .ok (exportersOf enumerate route) := by
  obtain ⟨fields, rfl, exporters⟩ := shaped
  simp only [listedExporters, mapGet, exportersOf, bind, Except.bind]
  cases found : JsonPipeline.get fields "exporters" with
  | none => rfl
  | some value =>
    rcases exporters value found with ⟨entries, rfl⟩ | ⟨items, rfl⟩
    · rfl
    · rfl

theorem isRoute_of_listedExporters {route : Json F} {listed : List (Enumerated F)}
    (made : listedExporters enumerate route = .ok listed) : IsRoute route := by
  cases route with
  | object fields =>
    refine ⟨fields, rfl, ?_⟩
    intro value found
    simp only [listedExporters, mapGet, found, bind, Except.bind] at made
    cases value with
    | array items => exact .inr ⟨items, rfl⟩
    | object entries => exact .inl ⟨entries, rfl⟩
    | _ => cases made
  | _ => cases made

variable [DecidableEq F]

theorem validateRouteExporters_of_shaped {routes exporters : List (Json F)} (objects : ∀ exporter ∈ exporters, IsObject exporter)
    (shaped : ∀ route ∈ routes, IsRoute route) :
    validateRouteExporters enumerate routes exporters =
      match (routes.flatMap (exportersOf enumerate)).find?
        (fun exporter => !isExporterName (exporters.map nameOf) exporter) with
      | none => .ok ()
      | some (.item .null) => .ok ()
      | some exporter => .error (.refused (.unknownExporter exporter)) := by
  have names : exporters.mapM (mapGetOrNull "name") = .ok (exporters.map nameOf) :=
    mapM_eq_ok_of_forall fun exporter member => mapGetOrNull_name (objects exporter member)
  have listed : routes.mapM (listedExporters enumerate) = .ok (routes.map (exportersOf enumerate)) :=
    mapM_eq_ok_of_forall fun route member => listedExporters_of_isRoute (shaped route member)
  unfold validateRouteExporters
  rw [names, listed]
  rfl

theorem validateRouteExporters_fails_iff {routes exporters : List (Json F)} :
    FailsOnly Failure.IsMistake (validateRouteExporters enumerate routes exporters) ↔ Checkable enumerate exporters routes := by
  have objects_iff : FailsOnly Failure.IsMistake (raises (exporters.mapM (mapGetOrNull "name")) : Except (Failure F) _) ↔
      ∀ exporter ∈ exporters, IsObject exporter := by
    rw [raises_mapM_fails_iff]
    · apply forall₂_congr
      intro exporter _
      exact ⟨fun ⟨_, found⟩ => isObject_of_mapGetOrNull found, fun fields => ⟨_, mapGetOrNull_name fields⟩⟩
    · intro exporter exception failed
      rw [mapGetOrNull_eq_error failed]
      rfl
  have shaped_iff : FailsOnly Failure.IsMistake (raises (routes.mapM (listedExporters enumerate)) : Except (Failure F) _) ↔
      ∀ route ∈ routes, IsRoute route := by
    rw [raises_mapM_fails_iff fun _ _ => listedExporters_eq_error]
    apply forall₂_congr
    intro route _
    exact ⟨fun ⟨_, listed⟩ => isRoute_of_listedExporters listed, fun shaped => ⟨_, listedExporters_of_isRoute shaped⟩⟩
  have named_iff (objects : ∀ exporter ∈ exporters, IsObject exporter) (shaped : ∀ route ∈ routes, IsRoute route) :
      FailsOnly Failure.IsMistake (validateRouteExporters enumerate routes exporters) ↔
        ∀ exporter, (routes.flatMap (exportersOf enumerate)).find?
          (fun exporter => !isExporterName (exporters.map nameOf) exporter) = some exporter → exporter = .item .null := by
    rw [validateRouteExporters_of_shaped objects shaped]
    split
    next absent =>
      rw [absent]
      exact iff_of_true (FailsOnly.ok ()) fun _ found => nomatch found
    next null =>
      rw [null]
      apply iff_of_true (FailsOnly.ok ())
      rintro _ ⟨⟩
      rfl
    next exporter other found =>
      rw [found]
      apply iff_of_false
      · intro only
        exact absurd (only _ rfl) (by simp [Failure.IsMistake, RequestError.isMistake])
      · intro null
        exact other (null exporter rfl)
  constructor
  · intro only
    obtain ⟨first, onward⟩ := FailsOnly.bind_iff.mp only
    have objects := objects_iff.mp first
    have names : exporters.mapM (mapGetOrNull "name") = .ok (exporters.map nameOf) :=
      mapM_eq_ok_of_forall fun exporter member => mapGetOrNull_name (objects exporter member)
    have shaped := shaped_iff.mp (FailsOnly.bind_iff.mp (onward _ (raises_eq_ok.mpr names))).1
    exact ⟨objects, shaped, (named_iff objects shaped).mp only⟩
  · rintro ⟨objects, shaped, named⟩
    exact (named_iff objects shaped).mpr named

/-- A configuration whose tenant and name are texts. -/
theorem validate_fails_iff {config : RequestedPipeline F} (tenantId : isBlank config.tenantId = false)
    (name : isBlank config.name = false) :
    FailsOnly Failure.IsMistake (validate enumerate config) ↔
      ∀ receivers exporters routes, config.receivers = .array receivers → receivers ≠ [] →
        config.exporters = .array exporters → exporters ≠ [] → config.routes = .array routes → routes ≠ [] →
          Checkable enumerate exporters routes := by
  constructor
  · intro only receivers exporters routes received receiving exported exporting routed routing
    have tenant := (FailsOnly.bind_iff_of (requireText_fails _)).mp only _ (requireText_eq_ok.mpr ⟨rfl, tenantId⟩)
    have named := (FailsOnly.bind_iff_of (requireText_fails _)).mp tenant _ (requireText_eq_ok.mpr ⟨rfl, name⟩)
    have first := (FailsOnly.bind_iff_of (requireNonEmpty_fails _)).mp named _ (requireNonEmpty_eq_ok.mpr ⟨received, receiving⟩)
    have second := (FailsOnly.bind_iff_of (requireNonEmpty_fails _)).mp first _ (requireNonEmpty_eq_ok.mpr ⟨exported, exporting⟩)
    have third := (FailsOnly.bind_iff_of (requireNonEmpty_fails _)).mp second _ (requireNonEmpty_eq_ok.mpr ⟨routed, routing⟩)
    exact validateRouteExporters_fails_iff.mp third
  · intro checkable
    apply (FailsOnly.bind_iff_of (requireText_fails _)).mpr
    intro _ _
    apply (FailsOnly.bind_iff_of (requireText_fails _)).mpr
    intro _ _
    apply (FailsOnly.bind_iff_of (requireNonEmpty_fails _)).mpr
    intro receivers received
    apply (FailsOnly.bind_iff_of (requireNonEmpty_fails _)).mpr
    intro exporters exported
    apply (FailsOnly.bind_iff_of (requireNonEmpty_fails _)).mpr
    intro routes routed
    obtain ⟨receivers_eq, receiving⟩ := requireNonEmpty_eq_ok.mp received
    obtain ⟨exporters_eq, exporting⟩ := requireNonEmpty_eq_ok.mp exported
    obtain ⟨routes_eq, routing⟩ := requireNonEmpty_eq_ok.mp routed
    exact validateRouteExporters_fails_iff.mpr
      (checkable receivers exporters routes receivers_eq receiving exporters_eq exporting routes_eq routing)

end Validation

end JsonRequest

end TelemetryFabric.ControlPlane
