import TelemetryFabric.ControlPlane.PipelineConfig

/-!
Pipelines as they come with a request: the entries of a section are JSON objects of any shape,
with nulls, floats and nested lists. Validation looks at the names of exporters only; writing
the text for agents meets every value of the fields it writes, and raises on some of them.
-/

namespace TelemetryFabric.ControlPlane
open Library

/-! ### Documents -/

/-- Decoded JSON. The floats are left open; an object is given by its entries in the order of their
keys. -/
inductive Json (F : Type) where
  | null
  | boolean (value : Bool)
  | integer (value : Int)
  | float (value : F)
  | string (text : String)
  | array (items : List (Json F))
  | object (fields : List (String × Json F))

abbrev JsonObject (F : Type) := List (String × Json F)

structure JsonPipeline (F : Type) where
  tenantId : String
  name : String
  receivers : List (JsonObject F)
  processors : List (JsonObject F)
  exporters : List (JsonObject F)
  routes : List (JsonObject F)

namespace Json

variable {F : Type}

section Same

variable [DecidableEq F]

mutual

/-- Equality of terms; numbers of different kinds differ. -/
def same : Json F → Json F → Bool
  | .null, .null => true
  | .boolean first, .boolean second => first == second
  | .integer first, .integer second => first == second
  | .float first, .float second => first == second
  | .string first, .string second => first == second
  | .array first, .array second => sameItems first second
  | .object first, .object second => sameFields first second
  | _, _ => false

def sameItems : List (Json F) → List (Json F) → Bool
  | [], [] => true
  | first :: rest, second :: others => same first second && sameItems rest others
  | _, _ => false

def sameFields : List (String × Json F) → List (String × Json F) → Bool
  | [], [] => true
  | (key, first) :: rest, (other, second) :: others => key == other && same first second && sameFields rest others
  | _, _ => false

end

end Same

mutual

/-- An item of a list that is written as text: a character, a string, or a list of these. -/
def chardata : Json F → Option (List Char)
  | .integer code => if 0 ≤ code ∧ code.toNat.isValidChar then some [Char.ofNat code.toNat] else none
  | .string text => some text.toList
  | .array items => chardataItems items
  | _ => none

def chardataItems : List (Json F) → Option (List Char)
  | [] => some []
  | item :: rest => do
      let first ← chardata item
      let others ← chardataItems rest
      return first ++ others

end

/-- A value in the middle of a string. -/
def interpolated (showFloat : F → String) : Json F → Option String
  | .null => some ""
  | .boolean value => some (showBool value)
  | .integer value => some (String.ofList (decimalInt value))
  | .float value => some (showFloat value)
  | .string text => some text
  | .array items => (chardataItems items).map String.ofList
  | .object _ => none

/-- `yaml_scalar`. -/
def yamlScalar : Json F → Option String
  | .boolean value => some (showBool value)
  | .integer value => some (String.ofList (decimalInt value))
  | .string text => some ("\"" ++ escape text ++ "\"")
  | _ => none

end Json

namespace JsonPipeline

variable {F : Type}

/-- `map_get`, as keys of decoded objects are atoms or strings but never both. -/
def get (entry : JsonObject F) (key : String) : Option (Json F) :=
  (entry.find? fun field => field.1 = key).map Prod.snd

def getOrNull (entry : JsonObject F) (key : String) : Json F := (get entry key).getD .null

/-! ### Validation -/

/-- What `flat_map` makes of the exporters of a route. The entries of an object are pairs, which
are no JSON value. -/
def listed (route : JsonObject F) : Option (List (Option (Json F))) :=
  match get route "exporters" with
  | none => some []
  | some (.array items) => some (items.map some)
  | some (.object fields) => some (fields.map fun _ => none)
  | some _ => none

def namesExporter [DecidableEq F] (exporters : List (JsonObject F)) : Option (Json F) → Bool
  | none => false
  | some exporter => exporters.any fun entry => (getOrNull entry "name").same exporter

/-- Whether `validate` returns `:ok`; it returns an error or raises otherwise. The first exporter that
is no name of one is compared with `nil`, so a null there passes. -/
def accepted [DecidableEq F] (config : JsonPipeline F) : Bool :=
  !isBlank config.tenantId && !isBlank config.name && !config.receivers.isEmpty && !config.exporters.isEmpty &&
    !config.routes.isEmpty &&
    match config.routes.mapM listed with
    | none => false
    | some exporters =>
        match exporters.flatten.find? fun exporter => !namesExporter config.exporters exporter with
        | none => true
        | some (some .null) => true
        | some _ => false

/-! ### The text for agents -/

section Yaml

-- the order of maps and of values, and the text of floats
variable (enumerate : JsonObject F → JsonObject F) (precedes : Json F → Json F → Bool) (showFloat : F → String)

def yamlField (key : String) : Json F → Option (List String)
  | .object fields => do
      let lines ← ((enumerate fields).mergeSort fun first second => decide (first.1 ≤ second.1)).mapM fun field => do
        return "      " ++ field.1 ++ ": " ++ (← field.2.yamlScalar)
      return ("    " ++ key ++ ":") :: lines
  | value => do return ["    " ++ key ++ ": " ++ (← value.yamlScalar)]

def entryLines (keys : List String) (entry : JsonObject F) : Option (List String) := do
  let name ← (getOrNull entry "name").interpolated showFloat
  let fields ← (keys.filter fun key => (get entry key).isSome).mapM fun key =>
    (get entry key).bind (yamlField enumerate key)
  return ("  " ++ name ++ ":") :: fields.flatten

/-- The exporters of a route, where `Enum.map` goes through them. -/
def routeExporters (route : JsonObject F) : Option (List (Option (Json F))) :=
  match get route "exporters" with
  | some (.array items) => some (items.map some)
  | some (.object fields) => some (fields.map fun _ => none)
  | _ => none

def routeLines (route : JsonObject F) : Option (List String) := do
  let exporters ← routeExporters route
  let texts ← exporters.mapM fun exporter => exporter.bind Json.yamlScalar
  let signal ← (getOrNull route "signal").interpolated showFloat
  return ["  " ++ signal ++ ":",
    "    exporters: [" ++ String.ofList ([',', ' '].intercalate (texts.map String.toList)) ++ "]"]

def sectionLines (title key : String) (lines : JsonObject F → Option (List String)) (entries : List (JsonObject F)) :
    Option (List String) := do
  let written ← (entries.mergeSort fun first second =>
    precedes (getOrNull first key) (getOrNull second key)).mapM lines
  return (title ++ ":") :: written.flatten ++ [""]

def namedSection (title : String) (entries : List (JsonObject F)) (keys : List String) : Option (List String) :=
  sectionLines precedes title "name" (entryLines enumerate showFloat keys) entries

def routeSection (routes : List (JsonObject F)) : Option (List String) :=
  sectionLines precedes "routes" "signal" (routeLines showFloat) routes

def toAgentYaml [DecidableEq F] (config : JsonPipeline F) : Option String :=
  if config.accepted then do
    let receivers ← namedSection enumerate precedes showFloat "receivers" config.receivers ["protocol", "endpoint"]
    let processors ← namedSection enumerate precedes showFloat "processors" config.processors ["enabled"]
    let exporters ← namedSection enumerate precedes showFloat "exporters" config.exporters
      ["protocol", "endpoint", "tls", "retry"]
    let routes ← routeSection precedes showFloat config.routes
    return joinLines (["tenant: \"" ++ escape config.tenantId ++ "\"",
      "pipeline: \"" ++ escape config.name ++ "\"", ""] ++ receivers ++ processors ++ exporters ++ routes)
  else none

/-- The payloads that a snapshot of stored versions writes. -/
def snapshotPayloads [DecidableEq F] (versions : List (JsonPipeline F)) : Option (List String) :=
  versions.mapM (toAgentYaml enumerate precedes showFloat)

end Yaml

end JsonPipeline

/-! ### What can be written -/

namespace Json

variable {F : Type}

/-- A boolean, an integer or a string. -/
inductive IsScalar : Json F → Prop where
  | boolean (value : Bool) : IsScalar (.boolean value)
  | integer (value : Int) : IsScalar (.integer value)
  | string (text : String) : IsScalar (.string text)

inductive IsChardata : Json F → Prop where
  | character {code : Int} (positive : 0 ≤ code) (valid : code.toNat.isValidChar) : IsChardata (.integer code)
  | string (text : String) : IsChardata (.string text)
  | array {items : List (Json F)} (each : ∀ item ∈ items, IsChardata item) : IsChardata (.array items)

/-- Anything but an object, or a list that is no text. -/
inductive IsName : Json F → Prop where
  | null : IsName .null
  | scalar {value : Json F} (scalar : value.IsScalar) : IsName value
  | float (value : F) : IsName (.float value)
  | array {items : List (Json F)} (each : ∀ item ∈ items, item.IsChardata) : IsName (.array items)

/-- A scalar, or an object of scalars. -/
inductive IsField : Json F → Prop where
  | scalar {value : Json F} (scalar : value.IsScalar) : IsField value
  | object {fields : List (String × Json F)} (each : ∀ field ∈ fields, field.2.IsScalar) : IsField (.object fields)

/-- A list of scalars, or an empty object. -/
inductive IsExporters : Json F → Prop where
  | array {items : List (Json F)} (each : ∀ item ∈ items, item.IsScalar) : IsExporters (.array items)
  | empty : IsExporters (.object [])

end Json

namespace JsonPipeline

variable {F : Type}

structure WritableEntry (keys : List String) (entry : JsonObject F) : Prop where
  name : (getOrNull entry "name").IsName
  fields : ∀ key ∈ keys, ∀ value, get entry key = some value → value.IsField

structure WritableRoute (route : JsonObject F) : Prop where
  signal : (getOrNull route "signal").IsName
  exporters : ∃ value, get route "exporters" = some value ∧ value.IsExporters

structure Writable (config : JsonPipeline F) : Prop where
  receivers : ∀ entry ∈ config.receivers, WritableEntry ["protocol", "endpoint"] entry
  processors : ∀ entry ∈ config.processors, WritableEntry ["enabled"] entry
  exporters : ∀ entry ∈ config.exporters, WritableEntry ["protocol", "endpoint", "tls", "retry"] entry
  routes : ∀ route ∈ config.routes, WritableRoute route

end JsonPipeline

/-! ### Writing -/

section Writing

variable {F : Type}

theorem Json.yamlScalar_isSome (value : Json F) : value.yamlScalar.isSome = true ↔ value.IsScalar := by
  constructor
  · intro written
    cases value with
    | boolean value => exact .boolean value
    | integer value => exact .integer value
    | string text => exact .string text
    | null => cases written
    | float _ => cases written
    | array _ => cases written
    | object _ => cases written
  · intro scalar
    cases scalar <;> rfl

mutual

theorem Json.chardata_isSome : (value : Json F) → (value.chardata.isSome = true ↔ value.IsChardata)
  | .integer code => by
      rw [Json.chardata]
      split_ifs with valid
      · exact ⟨fun _ => .character valid.1 valid.2, fun _ => rfl⟩
      · constructor
        · intro written
          cases written
        · intro text
          cases text with
          | character positive character => exact absurd ⟨positive, character⟩ valid
  | .string text => ⟨fun _ => .string text, fun _ => rfl⟩
  | .array items => by
      rw [Json.chardata, Json.chardataItems_isSome items]
      constructor
      · intro each
        exact .array each
      · intro text
        cases text with
        | array each => exact each
  | .null => ⟨(fun written => nomatch written), (fun text => nomatch text)⟩
  | .boolean _ => ⟨(fun written => nomatch written), (fun text => nomatch text)⟩
  | .float _ => ⟨(fun written => nomatch written), (fun text => nomatch text)⟩
  | .object _ => ⟨(fun written => nomatch written), (fun text => nomatch text)⟩

theorem Json.chardataItems_isSome : (items : List (Json F)) →
    ((Json.chardataItems items).isSome = true ↔ ∀ item ∈ items, item.IsChardata)
  | [] => by simp [Json.chardataItems]
  | item :: rest => by
      rw [List.forall_mem_cons, ← Json.chardata_isSome item, ← Json.chardataItems_isSome rest, Json.chardataItems]
      cases item.chardata with
      | none => simp
      | some first => cases Json.chardataItems rest <;> simp

end

theorem Json.interpolated_isSome (showFloat : F → String) (value : Json F) :
    (value.interpolated showFloat).isSome = true ↔ value.IsName := by
  constructor
  · intro written
    cases value with
    | null => exact .null
    | boolean value => exact .scalar (.boolean value)
    | integer value => exact .scalar (.integer value)
    | float value => exact .float value
    | string text => exact .scalar (.string text)
    | array items =>
      rw [Json.interpolated, Option.isSome_map, Json.chardataItems_isSome] at written
      exact .array written
    | object _ => cases written
  · intro name
    cases name with
    | null => rfl
    | scalar scalar => cases scalar <;> rfl
    | float _ => rfl
    | array each =>
      rw [Json.interpolated, Option.isSome_map, Json.chardataItems_isSome]
      exact each

/-- A list is written if each item is. -/
theorem isSome_mapM {α β : Type} {write : α → Option β} {items : List α} :
    (items.mapM write).isSome = true ↔ ∀ item ∈ items, (write item).isSome = true := by
  induction items with
  | nil => simp
  | cons head rest ih =>
    rw [List.forall_mem_cons, ← ih, List.mapM_cons]
    cases write head with
    | none => simp
    | some first => cases rest.mapM write <;> simp

namespace JsonPipeline

variable {enumerate : JsonObject F → JsonObject F} {precedes : Json F → Json F → Bool} {showFloat : F → String}

theorem yamlField_isSome (lawful : ∀ fields, (enumerate fields).Perm fields) (key : String) (value : Json F) :
    (yamlField enumerate key value).isSome = true ↔ value.IsField := by
  by_cases nested : ∃ fields, value = .object fields
  · obtain ⟨fields, rfl⟩ := nested
    have same : ∀ field, field ∈ (enumerate fields).mergeSort (fun first second => decide (first.1 ≤ second.1)) ↔
        field ∈ fields := fun field => by rw [List.mem_mergeSort, (lawful fields).mem_iff]
    have each : (yamlField enumerate key (.object fields)).isSome = true ↔ ∀ field ∈ fields, field.2.IsScalar := by
      simp only [yamlField, Option.bind_eq_bind, Option.pure_def, Option.isSome_bind, Option.any_true, isSome_mapM, same,
        Json.yamlScalar_isSome, Option.isSome_some]
    rw [each]
    constructor
    · exact .object
    · intro field
      cases field with
      | scalar scalar => cases scalar
      | object each => exact each
  · have plain : yamlField enumerate key value = value.yamlScalar.bind fun text => some ["    " ++ key ++ ": " ++ text] := by
      cases value with
      | object fields => exact absurd ⟨fields, rfl⟩ nested
      | null => rfl
      | boolean _ => rfl
      | integer _ => rfl
      | float _ => rfl
      | string _ => rfl
      | array _ => rfl
    have written : (yamlField enumerate key value).isSome = value.yamlScalar.isSome := by
      rw [plain]
      cases value.yamlScalar <;> rfl
    rw [written, Json.yamlScalar_isSome]
    constructor
    · exact .scalar
    · intro field
      cases field with
      | scalar scalar => exact scalar
      | object each => exact absurd ⟨_, rfl⟩ nested

theorem entryLines_isSome (lawful : ∀ fields, (enumerate fields).Perm fields) (keys : List String)
    (entry : JsonObject F) :
    (entryLines enumerate showFloat keys entry).isSome = true ↔ WritableEntry keys entry := by
  have fields : ((keys.filter fun key => (get entry key).isSome).mapM fun key =>
      (get entry key).bind (yamlField enumerate key)).isSome = true ↔
      ∀ key ∈ keys, ∀ value, get entry key = some value → value.IsField := by
    rw [isSome_mapM]
    constructor
    · intro written key member value found
      have line := written key (List.mem_filter.mpr ⟨member, by simp [found]⟩)
      rw [found] at line
      exact (yamlField_isSome lawful key value).mp line
    · intro each key member
      obtain ⟨inside, present⟩ := List.mem_filter.mp member
      obtain ⟨value, found⟩ := Option.isSome_iff_exists.mp present
      rw [found]
      exact (yamlField_isSome lawful key value).mpr (each key inside value found)
  unfold entryLines
  simp only [Option.bind_eq_bind, Option.pure_def]
  constructor
  · intro written
    obtain ⟨name, foundName, rest⟩ := Option.bind_eq_some_iff.mp (Option.isSome_iff_exists.mp written).choose_spec
    obtain ⟨lines, foundLines, -⟩ := Option.bind_eq_some_iff.mp rest
    exact ⟨(Json.interpolated_isSome showFloat _).mp (by rw [foundName]; rfl), fields.mp (by rw [foundLines]; rfl)⟩
  · intro writable
    obtain ⟨name, foundName⟩ := Option.isSome_iff_exists.mp ((Json.interpolated_isSome showFloat _).mpr writable.name)
    obtain ⟨lines, foundLines⟩ := Option.isSome_iff_exists.mp (fields.mpr writable.fields)
    rw [foundName, Option.bind_some, foundLines]
    rfl

theorem routeExporters_isSome {route : JsonObject F} :
    (∃ exporters, routeExporters route = some exporters ∧
      (exporters.mapM fun exporter : Option (Json F) => exporter.bind Json.yamlScalar).isSome = true) ↔
      ∃ value, get route "exporters" = some value ∧ value.IsExporters := by
  unfold routeExporters
  cases found : get route "exporters" with
  | none => simp
  | some value =>
    cases value with
    | array items =>
      have each : ((items.map some).mapM fun exporter : Option (Json F) => exporter.bind Json.yamlScalar).isSome = true ↔
          ∀ item ∈ items, item.IsScalar := by
        rw [isSome_mapM, List.forall_mem_map]
        exact forall₂_congr fun item _ => Json.yamlScalar_isSome item
      constructor
      · rintro ⟨exporters, same, written⟩
        cases same
        exact ⟨_, rfl, .array (each.mp written)⟩
      · rintro ⟨value, same, exporters⟩
        cases same
        cases exporters with
        | array scalars => exact ⟨_, rfl, each.mpr scalars⟩
    | object fields =>
      constructor
      · rintro ⟨exporters, same, written⟩
        cases same
        cases fields with
        | nil => exact ⟨_, rfl, .empty⟩
        | cons field rest => cases written
      · rintro ⟨value, same, exporters⟩
        cases same
        cases exporters
        exact ⟨[], rfl, rfl⟩
    | _ =>
      constructor
      · rintro ⟨exporters, same, -⟩
        cases same
      · rintro ⟨value, same, exporters⟩
        cases same
        cases exporters

theorem routeLines_isSome (route : JsonObject F) : (routeLines showFloat route).isSome = true ↔ WritableRoute route := by
  unfold routeLines
  simp only [Option.bind_eq_bind, Option.pure_def]
  constructor
  · intro written
    obtain ⟨exporters, found, rest⟩ := Option.bind_eq_some_iff.mp (Option.isSome_iff_exists.mp written).choose_spec
    obtain ⟨texts, foundTexts, rest⟩ := Option.bind_eq_some_iff.mp rest
    obtain ⟨signal, foundSignal, -⟩ := Option.bind_eq_some_iff.mp rest
    exact ⟨(Json.interpolated_isSome showFloat _).mp (by rw [foundSignal]; rfl),
      routeExporters_isSome.mp ⟨exporters, found, by rw [foundTexts]; rfl⟩⟩
  · intro writable
    obtain ⟨exporters, found, texts⟩ := routeExporters_isSome.mpr writable.exporters
    obtain ⟨texts, foundTexts⟩ := Option.isSome_iff_exists.mp texts
    obtain ⟨signal, foundSignal⟩ := Option.isSome_iff_exists.mp ((Json.interpolated_isSome showFloat _).mpr writable.signal)
    rw [found, Option.bind_some, foundTexts, Option.bind_some, foundSignal]
    rfl

theorem sectionLines_isSome (title key : String) (lines : JsonObject F → Option (List String))
    (entries : List (JsonObject F)) :
    (sectionLines precedes title key lines entries).isSome = true ↔ ∀ entry ∈ entries, (lines entry).isSome = true := by
  unfold sectionLines
  simp only [Option.bind_eq_bind, Option.pure_def, Option.isSome_bind, Option.isSome_some, Option.any_true, isSome_mapM,
    List.mem_mergeSort]

theorem toAgentYaml_isSome [DecidableEq F] (lawful : ∀ fields, (enumerate fields).Perm fields)
    {config : JsonPipeline F} (accepted : config.accepted = true) :
    (toAgentYaml enumerate precedes showFloat config).isSome = true ↔ config.Writable := by
  unfold toAgentYaml
  rw [if_pos accepted]
  have named : ∀ title entries keys, (namedSection enumerate precedes showFloat title entries keys).isSome = true ↔
      ∀ entry ∈ entries, WritableEntry keys entry := by
    intro title entries keys
    rw [namedSection, sectionLines_isSome]
    exact forall₂_congr fun entry _ => entryLines_isSome lawful keys entry
  have routed : (routeSection precedes showFloat config.routes).isSome = true ↔
      ∀ route ∈ config.routes, WritableRoute route := by
    rw [routeSection, sectionLines_isSome]
    exact forall₂_congr fun route _ => routeLines_isSome route
  constructor
  · intro written
    obtain ⟨receivers, one, rest⟩ := Option.bind_eq_some_iff.mp (Option.isSome_iff_exists.mp written).choose_spec
    obtain ⟨processors, two, rest⟩ := Option.bind_eq_some_iff.mp rest
    obtain ⟨exporters, three, rest⟩ := Option.bind_eq_some_iff.mp rest
    obtain ⟨routes, four, -⟩ := Option.bind_eq_some_iff.mp rest
    exact ⟨(named _ _ _).mp (by rw [one]; rfl), (named _ _ _).mp (by rw [two]; rfl),
      (named _ _ _).mp (by rw [three]; rfl), routed.mp (by rw [four]; rfl)⟩
  · intro writable
    obtain ⟨receivers, one⟩ := Option.isSome_iff_exists.mp ((named "receivers" _ _).mpr writable.receivers)
    obtain ⟨processors, two⟩ := Option.isSome_iff_exists.mp ((named "processors" _ _).mpr writable.processors)
    obtain ⟨exporters, three⟩ := Option.isSome_iff_exists.mp ((named "exporters" _ _).mpr writable.exporters)
    obtain ⟨routes, four⟩ := Option.isSome_iff_exists.mp (routed.mpr writable.routes)
    rw [one, two, three, four]
    rfl

/-- An accepted pipeline is written, for an update or in a snapshot, exactly when its values are such
as the text has a place for. -/
theorem accepted_pipeline_written_iff [DecidableEq F] (lawful : ∀ fields, (enumerate fields).Perm fields) :
    (∀ config : JsonPipeline F, config.accepted = true →
      ((toAgentYaml enumerate precedes showFloat config).isSome = true ↔ config.Writable)) ∧
    ∀ versions : List (JsonPipeline F), (∀ config ∈ versions, config.accepted = true) →
      ((snapshotPayloads enumerate precedes showFloat versions).isSome = true ↔ ∀ config ∈ versions, config.Writable) := by
  refine ⟨fun config accepted => toAgentYaml_isSome lawful accepted, ?_⟩
  intro versions accepted
  rw [snapshotPayloads, isSome_mapM]
  exact forall₂_congr fun config member => toAgentYaml_isSome lawful (accepted config member)

end JsonPipeline

end Writing

/-- A request without floats, with the given endpoint of its exporter and the given route. -/
def requestedPipeline (endpoint : Json Empty) (route : JsonObject Empty) : JsonPipeline Empty where
  tenantId := "acme"
  name := "default"
  receivers := [[("name", .string "otlp"), ("protocol", .string "otlp_grpc"), ("endpoint", .string "0.0.0.0:4317")]]
  processors := [[("enabled", .boolean true), ("name", .string "batch")]]
  exporters := [[("endpoint", endpoint), ("name", .string "stdout"), ("protocol", .string "stdout"),
    ("retry", .object [("max_attempts", .integer 3)]), ("tls", .boolean false)]]
  routes := [route]

/-- Strings stand in the order of their text. -/
def requestedOrder : Json Empty → Json Empty → Bool
  | .string first, .string second => decide (first ≤ second)
  | _, _ => true

def tracesToStdout : JsonObject Empty := [("exporters", .array [.string "stdout"]), ("signal", .string "trace")]

theorem accepted_pipeline_written_iff_requested :
    (requestedPipeline (.string "stdout://local") tracesToStdout).accepted = true ∧
    ((JsonPipeline.toAgentYaml id requestedOrder Empty.elim (requestedPipeline (.string "stdout://local")
      tracesToStdout)).isSome = true ↔ (requestedPipeline (.string "stdout://local") tracesToStdout).Writable) ∧
    (JsonPipeline.toAgentYaml id requestedOrder Empty.elim (requestedPipeline (.string "stdout://local")
      tracesToStdout)).isSome = true := by
  have accepted : (requestedPipeline (.string "stdout://local") tracesToStdout).accepted = true := by decide +kernel
  exact ⟨accepted, (JsonPipeline.accepted_pipeline_written_iff fun _ => .refl _).1 _ accepted, by decide +kernel⟩

/-- A null among the fields, or a route without exporters, is accepted but never written. -/
theorem accepted_pipeline_not_written :
    (requestedPipeline .null tracesToStdout).accepted = true ∧
    JsonPipeline.toAgentYaml id requestedOrder Empty.elim (requestedPipeline .null tracesToStdout) = none ∧
    (requestedPipeline (.string "stdout://local") [("signal", .string "trace")]).accepted = true ∧
    JsonPipeline.toAgentYaml id requestedOrder Empty.elim
      (requestedPipeline (.string "stdout://local") [("signal", .string "trace")]) = none := by
  refine ⟨by decide +kernel, by decide +kernel, by decide +kernel, by decide +kernel⟩

end TelemetryFabric.ControlPlane
