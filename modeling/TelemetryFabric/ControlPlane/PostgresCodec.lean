import TelemetryFabric.ControlPlane.PipelineConfig
import Mathlib.Data.List.Sort

/-!
Pipelines in PostgreSQL. A row holds the configuration as JSON, in which keys and atoms have
become strings, next to the text for agents and its checksum. The text that is served later is
written again from the configuration that is read back.
-/

namespace TelemetryFabric.ControlPlane
open Library

/-! ### Rows -/

def mapPut (entries : Entries) (key : MapKey) (value : Term) : Entries :=
  if entries.any (fun entry => entry.1 = key) then
    entries.map fun entry => if entry.1 = key then (key, value) else entry
  else entries ++ [(key, value)]

/-- `Map.new`: of two entries with the same key, the later one is kept. -/
def mapNew (entries : Entries) : Entries :=
  entries.foldl (fun map entry => mapPut map entry.1 entry.2) []

section Normalize

variable (enumerate : Entries → Entries)

mutual

def normalizeJson : Term → Term
  | .scalar (.boolean value) => .scalar (.string (showBool value))
  | .scalar value => .scalar value
  | .list items => .list (normalizeItems items)
  | .map entries => .map (mapNew (enumerate (normalizeFields entries)))

def normalizeItems : List Term → List Term
  | [] => []
  | item :: rest => normalizeJson item :: normalizeItems rest

def normalizeFields : Entries → Entries
  | [] => []
  | (key, item) :: rest => (.string key.text, normalizeJson item) :: normalizeFields rest

end

def normalizeEntries (entries : Entries) : Entries := mapNew (enumerate (normalizeFields enumerate entries))

end Normalize

/-- The column `config` is a JSON object. -/
structure PipelineVersionRow where
  tenantId : String
  pipelineName : String
  version : Nat
  config : List (String × Term)
  agentYaml : String
  checksum : String
  updatedBy : String

section Rows

variable (enumerate : Entries → Entries) (sha256 : String → String)

def pipelineConfigMap (pipeline : PipelineConfig) : List (String × Term) :=
  let maps (entries : List Entries) : Term :=
    normalizeJson enumerate (.list (entries.map .map))
  [("tenant_id", .scalar (.string pipeline.tenantId)), ("name", .scalar (.string pipeline.name)),
    ("version", .scalar (.integer pipeline.version)), ("receivers", maps pipeline.receivers),
    ("processors", maps pipeline.processors), ("exporters", maps pipeline.exporters),
    ("routes", maps pipeline.routes)]

def pipelineVersionRow (pipeline : PipelineConfig) (updatedBy : String) : Option PipelineVersionRow := do
  let payload ← toAgentYaml enumerate pipeline
  return {
    tenantId := pipeline.tenantId
    pipelineName := pipeline.name
    version := pipeline.version
    config := pipelineConfigMap enumerate pipeline
    agentYaml := payload
    checksum := sha256 payload
    updatedBy := updatedBy }

/-- The maps listed under a key of the column, none where the key is missing. -/
def columnEntries (config : List (String × Term)) (key : String) : List Entries :=
  match (config.find? fun entry => entry.1 = key).map Prod.snd with
  | some (.list items) => items.map fun
      | .map entries => entries
      | _ => []
  | _ => []

def pipelineFromRow (row : PipelineVersionRow) : PipelineConfig where
  tenantId := row.tenantId
  name := row.pipelineName
  version := row.version
  receivers := columnEntries row.config "receivers"
  processors := columnEntries row.config "processors"
  exporters := columnEntries row.config "exporters"
  routes := columnEntries row.config "routes"

/-- The update an agent is sent. -/
structure ConfigUpdate where
  version : Nat
  pipelineConfig : String
  checksum : String

def buildConfigUpdate (pipeline : PipelineConfig) : Option ConfigUpdate := do
  let payload ← toAgentYaml enumerate pipeline
  return ⟨pipeline.version, payload, sha256 payload⟩

end Rows

end TelemetryFabric.ControlPlane
