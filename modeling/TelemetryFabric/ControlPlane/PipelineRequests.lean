import TelemetryFabric.ControlPlane.JsonPipeline

/-!
Pipelines as request bodies have them: sections of any shape with entries of any shape. Validation
looks at the sections that must not be empty and at the exporters, and raises where these are not
what it takes them for; the text for agents meets all the rest.
-/

namespace TelemetryFabric.ControlPlane
open Library

/-! ### Failures -/

/-- What is raised, as far as it is answered differently. An `ArgumentError` is one of the code with
its message, or one of the runtime. -/
inductive Exception where
  | argumentError (message : String)
  | badArgument
  | keyError (key : String)
  | badMapError
  | functionClauseError
  | matchError
  | protocolUndefinedError
  | unicodeConversionError
  deriving DecidableEq

/-- What `Enum` goes through: items of a list, or entries of a map, which are no JSON values. -/
inductive Enumerated (F : Type) where
  | item (value : Json F)
  | entry (key : String) (value : Json F)

/-- What stands in an error tuple. -/
inductive RequestError (F : Type) where
  | notFound
  | tenantMismatch
  | empty (field : String)
  | invalidInteger (field : String) (value : Json F)
  | validationFailed (errors : Json F)
  | unknownCommandKind (kind : Json F)
  | invalidBoolean (field : String) (value : Json F)
  | invalidVersion (target : Json F)
  | unknownExporter (exporter : Enumerated F)

/-- A request is refused, or something is raised, or the process that it calls ends. -/
inductive Failure (F : Type) where
  | refused (error : RequestError F)
  | raised (exception : Exception)
  | exited

namespace JsonRequest

section Checks

variable {F : Type}

def raises {α : Type} (result : Except Exception α) : Except (Failure F) α := result.mapError .raised

/-- The text that is checked. -/
def requireText (field : String) : Json F → Except (Failure F) String
  | .string value => if isBlank value then .error (.refused (.empty field)) else .ok value
  | _ => .error (.refused (.empty field))

def requireNonEmpty (field : String) : Json F → Except (Failure F) (List (Json F))
  | .array (first :: rest) => .ok (first :: rest)
  | _ => .error (.refused (.empty field))

/-- `map_get`, without its default. -/
def mapGet (key : String) : Json F → Except Exception (Option (Json F))
  | .object fields => .ok (JsonPipeline.get fields key)
  | _ => .error .badMapError

def mapGetOrNull (key : String) (value : Json F) : Except Exception (Json F) := do
  return (← mapGet key value).getD .null

end Checks

end JsonRequest

/-- `PipelineConfig`, of a tenant and a name that are texts by then. -/
structure RequestedPipeline (F : Type) where
  tenantId : String
  name : String
  receivers : Json F
  processors : Json F
  exporters : Json F
  routes : Json F
  version : Nat

namespace JsonRequest

section Pipelines

-- the order of maps and of values, the text of floats, and what `List.to_string` raises
variable {F : Type} (enumerate : JsonObject F → JsonObject F) (precedes : Json F → Json F → Bool)
  (showFloat : F → String) (charlistError : List (Json F) → Exception)

def enumerated : Json F → Except Exception (List (Enumerated F))
  | .array items => .ok (items.map .item)
  | .object fields => .ok ((enumerate fields).map fun field => .entry field.1 field.2)
  | _ => .error .protocolUndefinedError

/-! ### Validation -/

/-- What `flat_map` takes from a route. -/
def listedExporters (route : Json F) : Except Exception (List (Enumerated F)) := do
  match ← mapGet "exporters" route with
  | none => return []
  | some value => enumerated enumerate value

section Validation

variable [DecidableEq F]

def isExporterName (names : List (Json F)) : Enumerated F → Bool
  | .item value => names.any fun name => name.same value
  | .entry _ _ => false

/-- The first exporter without a definition is compared with `nil`, so a null passes. -/
def validateRouteExporters (routes exporters : List (Json F)) : Except (Failure F) Unit := do
  let names ← raises (exporters.mapM (mapGetOrNull "name"))
  let listed ← raises (routes.mapM (listedExporters enumerate))
  match listed.flatten.find? fun exporter => !isExporterName names exporter with
  | none => .ok ()
  | some (.item .null) => .ok ()
  | some exporter => .error (.refused (.unknownExporter exporter))

def validate (config : RequestedPipeline F) : Except (Failure F) Unit := do
  let _ ← requireText "tenant_id" (.string config.tenantId : Json F)
  let _ ← requireText "name" (.string config.name : Json F)
  let _ ← requireNonEmpty "receivers" config.receivers
  let exporters ← requireNonEmpty "exporters" config.exporters
  let routes ← requireNonEmpty "routes" config.routes
  validateRouteExporters enumerate routes exporters

end Validation

/-! ### The text for agents -/

def interpolate (value : Json F) : Except Exception String :=
  match value.interpolated showFloat with
  | some text => .ok text
  | none => match value with
      | .array items => .error (charlistError items)
      | _ => .error .protocolUndefinedError

def yamlScalar : Enumerated F → Except Exception String
  | .item value => match value.yamlScalar with
      | some text => .ok text
      | none => .error .functionClauseError
  | .entry _ _ => .error .functionClauseError

def yamlField (key : String) : Json F → Except Exception (List String)
  | .object fields => do
      let lines ← ((enumerate fields).mergeSort fun first second => decide (first.1 ≤ second.1)).mapM fun field => do
        return "      " ++ field.1 ++ ": " ++ (← yamlScalar (.item field.2))
      return ("    " ++ key ++ ":") :: lines
  | value => do return ["    " ++ key ++ ": " ++ (← yamlScalar (.item value))]

/-- `sort_by` with the keys it has looked up; the entries of a map are no maps. -/
def sortedBy (key : String) (entries : List (Enumerated F)) : Except Exception (List (Json F)) := do
  let keyed ← entries.mapM fun entry => match entry with
    | .item value => do return (← mapGetOrNull key value, value)
    | .entry _ _ => .error .badMapError
  return (keyed.mergeSort fun first second => precedes first.1 second.1).map Prod.snd

def entryLines (keys : List String) (entry : Json F) : Except Exception (List String) := do
  let name ← interpolate showFloat charlistError (← mapGetOrNull "name" entry)
  let fields ← keys.mapM fun key => do
    match ← mapGet key entry with
    | none => return []
    | some value => yamlField enumerate key value
  return ("  " ++ name ++ ":") :: fields.flatten

def namedSection (title : String) (entries : Json F) (keys : List String) : Except Exception (List String) := do
  let sorted ← sortedBy precedes "name" (← enumerated enumerate entries)
  let lines ← sorted.mapM (entryLines enumerate showFloat charlistError keys)
  return (title ++ ":") :: lines.flatten ++ [""]

def routeLines (route : Json F) : Except Exception (List String) := do
  let exporters ← enumerated enumerate (← mapGetOrNull "exporters" route)
  let texts ← exporters.mapM yamlScalar
  let signal ← interpolate showFloat charlistError (← mapGetOrNull "signal" route)
  return ["  " ++ signal ++ ":",
    "    exporters: [" ++ String.ofList ([',', ' '].intercalate (texts.map String.toList)) ++ "]"]

def routeSection (routes : Json F) : Except Exception (List String) := do
  let sorted ← sortedBy precedes "signal" (← enumerated enumerate routes)
  let lines ← sorted.mapM (routeLines enumerate showFloat charlistError)
  return "routes:" :: lines.flatten ++ [""]

/-- A pipeline that is not valid is no match for `:ok`. -/
def toAgentYaml [DecidableEq F] (config : RequestedPipeline F) : Except Exception String := do
  match validate enumerate config with
  | .ok () => pure ()
  | .error (.raised exception) => throw exception
  | .error _ => throw .matchError
  let receivers ← namedSection enumerate precedes showFloat charlistError "receivers" config.receivers
    ["protocol", "endpoint"]
  let processors ← namedSection enumerate precedes showFloat charlistError "processors" config.processors ["enabled"]
  let exporters ← namedSection enumerate precedes showFloat charlistError "exporters" config.exporters
    ["protocol", "endpoint", "tls", "retry"]
  let routes ← routeSection enumerate precedes showFloat charlistError config.routes
  return joinLines (["tenant: \"" ++ escape config.tenantId ++ "\"",
    "pipeline: \"" ++ escape config.name ++ "\"", ""] ++ receivers ++ processors ++ exporters ++ routes)

end Pipelines

end JsonRequest

end TelemetryFabric.ControlPlane
