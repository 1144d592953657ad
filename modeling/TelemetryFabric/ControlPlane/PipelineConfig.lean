import TelemetryFabric.Library.Numerals
import Mathlib.Data.String.Basic

/-!
Pipelines as the control plane keeps them, and the text that agents are sent. The entries of a
pipeline are maps with atoms or strings as keys; a field is looked up under either. Where the
code raises, there is no result. Values are texts, integers, booleans, lists and maps, and only a
text, an integer or a boolean names anything here; pipelines as requests give them, with any value
of JSON in any place, are in `JsonPipeline`.
-/

namespace TelemetryFabric.ControlPlane
open Library

/-! ### Values -/

inductive Scalar where
  | string (text : String)
  | integer (value : Int)
  | boolean (value : Bool)
  deriving DecidableEq

inductive MapKey where
  | atom (name : String)
  | string (text : String)
  deriving DecidableEq

inductive Term where
  | scalar (value : Scalar)
  | list (items : List Term)
  | map (entries : List (MapKey × Term))

/-- A map, by its entries. -/
abbrev Entries := List (MapKey × Term)

/-- `to_string`. -/
def MapKey.text : MapKey → String
  | .atom name => name
  | .string text => text

def Scalar.text : Scalar → String
  | .string text => text
  | .integer value => String.ofList (decimalInt value)
  | .boolean value => showBool value

def Term.isBoolean : Term → Bool
  | .scalar (.boolean _) => true
  | _ => false

def findKey (entries : Entries) (key : MapKey) : Option Term :=
  (entries.find? fun entry => entry.1 = key).map Prod.snd

def mapGet (entries : Entries) (key : String) : Option Term :=
  (findKey entries (.atom key)).or (findKey entries (.string key))

def mapHasKey (entries : Entries) (key : String) : Bool := (mapGet entries key).isSome

/-! ### Configurations -/

structure PipelineConfig where
  tenantId : String
  name : String
  receivers : List Entries
  processors : List Entries
  exporters : List Entries
  routes : List Entries
  version : Nat

inductive PipelineError where
  | empty (field : String)
  | unknownExporter (exporter : Term)
  | raised

def requireText (field value : String) : Except PipelineError Unit :=
  if isBlank value then .error (.empty field) else .ok ()

def requireNonEmpty (field : String) (values : List Entries) : Except PipelineError Unit :=
  if values = [] then .error (.empty field) else .ok ()

/-- What the exporters of a route are enumerated as; only lists and empty maps yield values. -/
def enumerated : Term → Option (List Term)
  | .list items => some items
  | .map [] => some []
  | _ => none

/-- The exporter is the name of one; only scalars can be. -/
def namesExporter (exporters : List Entries) : Term → Bool
  | .scalar value => exporters.any fun exporter => match mapGet exporter "name" with
      | some (.scalar name) => name = value
      | _ => false
  | _ => false

def validateRouteExporters (routes exporters : List Entries) : Except PipelineError Unit :=
  match routes.mapM fun route => ((mapGet route "exporters").map enumerated).getD (some []) with
  | none => .error .raised
  | some listed =>
      match listed.flatten.find? fun exporter => !namesExporter exporters exporter with
      | some exporter => .error (.unknownExporter exporter)
      | none => .ok ()

def validate (config : PipelineConfig) : Except PipelineError Unit := do
  requireText "tenant_id" config.tenantId
  requireText "name" config.name
  requireNonEmpty "receivers" config.receivers
  requireNonEmpty "exporters" config.exporters
  requireNonEmpty "routes" config.routes
  validateRouteExporters config.routes config.exporters

/-! ### The text for agents -/

/-- `String.replace` of one character. -/
def replaceChar (old : Char) (new : String) (text : String) : String :=
  String.ofList (text.toList.flatMap fun c => if c = old then new.toList else [c])

def escape (text : String) : String :=
  replaceChar '\n' "\\n" (replaceChar '"' "\\\"" (replaceChar '\\' "\\\\" text))

def yamlScalar : Term → Option String
  | .scalar (.boolean value) => some (showBool value)
  | .scalar (.integer value) => some (String.ofList (decimalInt value))
  | .scalar (.string text) => some ("\"" ++ escape text ++ "\"")
  | _ => none

/-- A value in the middle of a string. -/
def interpolate : Option Term → Option String
  | none => some ""
  | some (.scalar value) => some value.text
  | some _ => none

def byText (first second : MapKey × Term) : Bool := decide (first.1.text ≤ second.1.text)

/-- The place of a kind of value in the order of all values. -/
def kindRank : Option Term → Nat
  | some (.scalar (.integer _)) => 0
  | none => 1
  | some (.scalar (.boolean _)) => 1
  | some (.map _) => 2
  | some (.list _) => 3
  | some (.scalar (.string _)) => 4

/-- The order of values: numbers, atoms, maps, lists, strings. What cannot be written anyway is
not told apart. -/
def termLe (first second : Option Term) : Bool :=
  if kindRank first < kindRank second then true
  else if kindRank second < kindRank first then false
  else match first, second with
    | some (.scalar (.integer one)), some (.scalar (.integer two)) => decide (one ≤ two)
    | some (.scalar one), some (.scalar two) => decide (one.text ≤ two.text)
    | none, some (.scalar two) => decide ("nil" ≤ two.text)
    | some (.scalar one), none => decide (one.text ≤ "nil")
    | _, _ => true

section Yaml

-- the order in which the entries of a map are enumerated
variable (enumerate : Entries → Entries)

def yamlField (key : String) : Term → Option (List String)
  | .map entries => do
      let lines ← ((enumerate entries).mergeSort byText).mapM fun entry => do
        return "      " ++ entry.1.text ++ ": " ++ (← yamlScalar entry.2)
      return ("    " ++ key ++ ":") :: lines
  | value => do return ["    " ++ key ++ ": " ++ (← yamlScalar value)]

def entryLines (keys : List String) (entry : Entries) : Option (List String) := do
  let name ← interpolate (mapGet entry "name")
  let fields ← (keys.filter (mapHasKey entry)).mapM fun key => (mapGet entry key).bind (yamlField enumerate key)
  return ("  " ++ name ++ ":") :: fields.flatten

def routeLines (route : Entries) : Option (List String) := do
  let exporters ← (mapGet route "exporters").bind enumerated
  let texts ← exporters.mapM yamlScalar
  let signal ← interpolate (mapGet route "signal")
  return ["  " ++ signal ++ ":",
    "    exporters: [" ++ String.ofList ([',', ' '].intercalate (texts.map String.toList)) ++ "]"]

/-- A section: its title, then the lines of its entries in the given order, then an empty line. -/
def sectionLines (title : String) (precedes : Entries → Entries → Bool) (lines : Entries → Option (List String))
    (entries : List Entries) : Option (List String) := do
  let written ← (entries.mergeSort precedes).mapM lines
  return (title ++ ":") :: written.flatten ++ [""]

def precedesBy (key : String) (first second : Entries) : Bool := termLe (mapGet first key) (mapGet second key)

def namedSection (title : String) (entries : List Entries) (keys : List String) : Option (List String) :=
  sectionLines title (precedesBy "name") (entryLines enumerate keys) entries

def routeSection (routes : List Entries) : Option (List String) :=
  sectionLines "routes" (precedesBy "signal") routeLines routes

def joinLines (lines : List String) : String :=
  String.ofList (['\n'].intercalate (lines.map String.toList) ++ ['\n'])

def toAgentYaml (config : PipelineConfig) : Option String :=
  match validate config with
  | .error _ => none
  | .ok () => do
      let receivers ← namedSection enumerate "receivers" config.receivers ["protocol", "endpoint"]
      let processors ← namedSection enumerate "processors" config.processors ["enabled"]
      let exporters ← namedSection enumerate "exporters" config.exporters ["protocol", "endpoint", "tls", "retry"]
      let routes ← routeSection config.routes
      return joinLines (["tenant: \"" ++ escape config.tenantId ++ "\"",
        "pipeline: \"" ++ escape config.name ++ "\"", ""] ++ receivers ++ processors ++ exporters ++ routes)

end Yaml

end TelemetryFabric.ControlPlane
