import TelemetryFabric.Agent.ConfigCheck
import TelemetryFabric.Agent.ConfigUpdates
import TelemetryFabric.ControlPlane.AgentDocument
import TelemetryFabric.ControlPlane.ReadBack

/-!
What an agent makes of a pipeline that the control plane has accepted. Both sides check a pipeline.
What the control plane checks the agent need not doubt: tenant, name, the sections that must not be
empty, and the exporters of the routes. Fields, types, protocols, kinds, signals and limits are left
to the agent, which stays with its configuration if it cannot take the new one.
-/

namespace TelemetryFabric.ControlPlane
open Library Library.Yaml Agent

/-! ### What the agent reads of an entry -/

/-- The name of an entry that has a string as its name. -/
def nameOf (key : String) (entry : Entries) : String :=
  match mapGet entry key with
  | some (.scalar (.string text)) => text
  | _ => ""

section Entries

variable (serde : Serde) (enumerate : Entries → Entries)

def fieldText (key : String) (entry : Entries) : Option String :=
  (mapGet entry key).bind fun value => serde.text (fieldNode enumerate value)

/-- A field that may be missing or empty. -/
def fieldOption {α : Type} (read : Yaml → Option α) (key : String) (entry : Entries) : Option (Option α) :=
  match (mapGet entry key).map (fieldNode enumerate) with
  | none => some none
  | some .null => some none
  | some node => (read node).map some

/-- The control plane does not write the `tls` of a receiver. -/
def receiverOf (entry : Entries) : Option FileReceiverConfig := do
  return ⟨← fieldText serde enumerate "protocol" entry, ← fieldText serde enumerate "endpoint" entry, none⟩

def processorOf (entry : Entries) : Option FileProcessorConfig :=
  if (mapGet entry "enabled").isNone && !serde.emptyMapping then none
  else (fieldOption enumerate boolValue "enabled" entry).map FileProcessorConfig.mk

def exporterOf (entry : Entries) : Option FileExporterConfig := do
  return ⟨← fieldText serde enumerate "protocol" entry, ← fieldText serde enumerate "endpoint" entry,
    ← fieldOption enumerate (FileTlsConfig.read serde) "tls" entry,
    ← fieldOption enumerate (FileExporterRetryConfig.read serde) "retry" entry⟩

def routeOf (route : Entries) : Option FileRouteConfig :=
  ((routeExporters route).mapM fun exporter => serde.text exporter.node).map FileRouteConfig.mk

end Entries

/-- The last written entry of each name. -/
def lastNamed (key : String) (entries : List Entries) : OrderedMap String Entries :=
  .ofList ((entries.mergeSort (precedesBy key)).map fun entry => (nameOf key entry, entry))

/-- What the agent asks of a pipeline that the control plane does not check. -/
structure Runnable (serde : Serde) (enumerate : Entries → Entries) (config : PipelineConfig) : Prop where
  receivers : ∀ entry ∈ config.receivers, (receiverOf serde enumerate entry).isSome = true
  processors : ∀ entry ∈ config.processors, (processorOf serde enumerate entry).isSome = true ∧
    (processorKindOf (normalizeToken (nameOf "name" entry))).isSome = true
  exporters : ∀ entry ∈ config.exporters, (exporterOf serde enumerate entry).isSome = true
  signals : ∀ route ∈ config.routes, (Core.SignalKind.fromToken (normalizeToken (nameOf "signal" route))).isSome = true
  receiverProtocols : ∀ binding ∈ (lastNamed "name" config.receivers).entries,
    ∀ receiver ∈ receiverOf serde enumerate binding.2,
      (receiverProtocolOf (normalizeToken receiver.protocol)).isSome = true
  exporterProtocols : ∀ binding ∈ (lastNamed "name" config.exporters).entries,
    ∀ exporter ∈ exporterOf serde enumerate binding.2,
      (exporterProtocolOf (normalizeToken exporter.protocol)).isSome = true ∧
        PositiveRetry ((exporter.retry.map FileExporterRetryConfig.into).getD .default)
  routed : ∀ binding ∈ (lastNamed "signal" config.routes).entries, routeExporters binding.2 ≠ []

/-- Names and signals are strings, and names are not blank. -/
structure Identifiers (config : PipelineConfig) : Prop where
  names : ∀ entries ∈ [config.receivers, config.processors, config.exporters], ∀ entry ∈ entries,
    ∃ name, mapGet entry "name" = some (.scalar (.string name)) ∧ isBlank name = false
  signals : ∀ route ∈ config.routes, ∃ signal, mapGet route "signal" = some (.scalar (.string signal))

/-! ### Reading entries -/

theorem nameNode_of_string {key name : String} {entry : Entries} (named : mapGet entry key = some (.scalar (.string name))) :
    nameOf key entry = name ∧ nameNode key entry = .string name := by
  unfold nameOf nameNode
  rw [named]
  exact ⟨rfl, rfl⟩

section Reading

variable {serde : Serde} (lawful : serde.Lawful) {enumerate : Entries → Entries}

/-- The fields of an entry, by the keys that are written. -/
def writtenFields (enumerate : Entries → Entries) (keys : List String) (entry : Entries) : List (String × Yaml) :=
  keys.filterMap fun key => (mapGet entry key).map fun value => (key, fieldNode enumerate value)

theorem filter_writtenFields (keys : List String) (nodup : keys.Nodup) (entry : Entries) (name : String) :
    (writtenFields enumerate keys entry).filter (fun field => field.1 = name) =
      if name ∈ keys then ((mapGet entry name).map fun value => (name, fieldNode enumerate value)).toList else [] := by
  induction keys with
  | nil => rfl
  | cons key keys ih =>
    obtain ⟨fresh, rest⟩ := List.nodup_cons.mp nodup
    have onward := ih rest
    unfold writtenFields at onward ⊢
    by_cases same : key = name
    · subst same
      rw [if_neg fresh] at onward
      cases found : mapGet entry key with
      | none => simp [found, onward]
      | some value => simp [found, onward]
    · cases found : mapGet entry key with
      | none => simp [found, onward, Ne.symm same]
      | some value => simp [found, onward, same, Ne.symm same]

theorem field_writtenFields {keys : List String} (nodup : keys.Nodup) (entry : Entries) {name : String}
    (listed : name ∈ keys) : fieldValue name (writtenFields enumerate keys entry) =
      some ((mapGet entry name).map (fieldNode enumerate)) := by
  unfold fieldValue
  rw [filter_writtenFields keys nodup, if_pos listed]
  cases mapGet entry name <;> rfl

theorem field_unwritten {keys : List String} (nodup : keys.Nodup) (entry : Entries) {name : String}
    (unlisted : name ∉ keys) : fieldValue name (writtenFields enumerate keys entry) = some none := by
  unfold fieldValue
  rw [filter_writtenFields keys nodup, if_neg unlisted]

theorem fieldNodes_eq_map (keys : List String) (entry : Entries) : fieldNodes enumerate keys entry =
    (writtenFields enumerate keys entry).map fun field => (.string field.1, field.2) := by
  unfold fieldNodes writtenFields
  rw [List.map_filterMap]
  congr 1
  funext key
  rw [Option.map_map]
  rfl

include lawful in
/-- Keys that are strings are read as these. -/
theorem mappingFields_strings (fields : List (String × Yaml)) :
    mappingFields serde (fields.map fun field => (.string field.1, field.2)) = some fields := by
  unfold mappingFields
  induction fields with
  | nil => rfl
  | cons field fields ih =>
    rw [List.map_cons, List.mapM_cons, ih, lawful.string]
    rfl

include lawful in
/-- The fields of an entry; where none is written, the library decides. -/
theorem asFields_entry (keys : List String) (entry : Entries) :
    asFields serde (blockNode (fieldNodes enumerate keys entry)) =
      if (writtenFields enumerate keys entry).isEmpty && !serde.emptyMapping then none
      else some (writtenFields enumerate keys entry) := by
  have read := mappingFields_strings lawful (writtenFields enumerate keys entry)
  rw [fieldNodes_eq_map]
  revert read
  generalize writtenFields enumerate keys entry = fields
  intro read
  cases fields with
  | nil =>
    change (if serde.emptyMapping then some [] else none) = _
    cases serde.emptyMapping <;> rfl
  | cons field fields => exact read

theorem required_written {α : Type} {keys : List String} (nodup : keys.Nodup) (entry : Entries) {name : String}
    (listed : name ∈ keys) (read : Yaml → Option α) : requiredField name read (writtenFields enumerate keys entry) =
      (mapGet entry name).bind fun value => read (fieldNode enumerate value) := by
  unfold requiredField
  rw [field_writtenFields nodup entry listed]
  cases mapGet entry name <;> rfl

theorem optional_written {α : Type} {keys : List String} (nodup : keys.Nodup) (entry : Entries) {name : String}
    (listed : name ∈ keys) (read : Yaml → Option α) : optionalField name read (writtenFields enumerate keys entry) =
      fieldOption enumerate read name entry := by
  unfold optionalField fieldOption
  rw [field_writtenFields nodup entry listed]
  cases (mapGet entry name).map (fieldNode enumerate) with
  | none => rfl
  | some node => cases node <;> rfl

theorem optional_unwritten {α : Type} {keys : List String} (nodup : keys.Nodup) (entry : Entries) {name : String}
    (unlisted : name ∉ keys) (read : Yaml → Option α) : optionalField name read (writtenFields enumerate keys entry) =
      some none := by
  unfold optionalField
  rw [field_unwritten nodup entry unlisted]

/-- Without fields there is no protocol. -/
theorem fieldText_of_isEmpty {keys : List String} {entry : Entries} (nothing : (writtenFields enumerate keys entry).isEmpty = true)
    {key : String} (listed : key ∈ keys) : mapGet entry key = none := by
  rw [List.isEmpty_iff, writtenFields, List.filterMap_eq_nil_iff] at nothing
  exact Option.map_eq_none_iff.mp (nothing key listed)

include lawful

theorem read_receiver (entry : Entries) :
    FileReceiverConfig.read serde (entryNode enumerate receiverKeys entry).2 = receiverOf serde enumerate entry := by
  have nodup : receiverKeys.Nodup := by decide
  unfold FileReceiverConfig.read entryNode
  rw [asFields_entry lawful]
  split_ifs with closed
  · rw [Bool.and_eq_true] at closed
    unfold receiverOf fieldText
    rw [fieldText_of_isEmpty closed.1 (show "protocol" ∈ receiverKeys by decide)]
    rfl
  · have protocol : "protocol" ∈ receiverKeys := by decide
    have endpoint : "endpoint" ∈ receiverKeys := by decide
    have tls : "tls" ∉ receiverKeys := by decide
    simp only [Option.bind_eq_bind, Option.bind_some, required_written nodup entry protocol,
      required_written nodup entry endpoint, optional_unwritten nodup entry tls]
    rfl

theorem read_processor (entry : Entries) :
    FileProcessorConfig.read serde (entryNode enumerate processorKeys entry).2 = processorOf serde enumerate entry := by
  have nodup : processorKeys.Nodup := by decide
  have nothing : (writtenFields enumerate processorKeys entry).isEmpty = (mapGet entry "enabled").isNone := by
    unfold writtenFields processorKeys
    cases found : mapGet entry "enabled" with
    | none => simp [found]
    | some value => simp [found]
  have enabled : "enabled" ∈ processorKeys := by decide
  unfold FileProcessorConfig.read entryNode processorOf
  rw [asFields_entry lawful, nothing]
  split_ifs with closed
  · rfl
  · simp only [Option.bind_eq_bind, Option.bind_some, optional_written nodup entry enabled]
    cases fieldOption enumerate boolValue "enabled" entry <;> rfl

theorem read_exporter (entry : Entries) :
    FileExporterConfig.read serde (entryNode enumerate exporterKeys entry).2 = exporterOf serde enumerate entry := by
  have nodup : exporterKeys.Nodup := by decide
  unfold FileExporterConfig.read entryNode
  rw [asFields_entry lawful]
  split_ifs with closed
  · rw [Bool.and_eq_true] at closed
    unfold exporterOf fieldText
    rw [fieldText_of_isEmpty closed.1 (show "protocol" ∈ exporterKeys by decide)]
    rfl
  · have protocol : "protocol" ∈ exporterKeys := by decide
    have endpoint : "endpoint" ∈ exporterKeys := by decide
    have tls : "tls" ∈ exporterKeys := by decide
    have retry : "retry" ∈ exporterKeys := by decide
    simp only [Option.bind_eq_bind, Option.bind_some, required_written nodup entry protocol,
      required_written nodup entry endpoint, optional_written nodup entry tls, optional_written nodup entry retry]
    rfl

theorem read_route (route : Entries) : FileRouteConfig.read serde (routeNode route).2 = routeOf serde route := by
  have fields : asFields serde (routeNode route).2 =
      some [("exporters", .sequence ((routeExporters route).map Term.node))] := by
    simp only [routeNode, asFields, mappingFields, List.mapM_cons, List.mapM_nil, lawful.string]
    rfl
  have listed : requiredField "exporters" (asList serde serde.text)
      [("exporters", .sequence ((routeExporters route).map Term.node))] =
        (routeExporters route).mapM fun exporter => serde.text exporter.node := by
    change List.mapM serde.text ((routeExporters route).map Term.node) = _
    rw [List.mapM_map]
    rfl
  unfold FileRouteConfig.read routeOf
  rw [fields]
  simp only [Option.bind_eq_bind, Option.bind_some, listed]
  cases (routeExporters route).mapM fun exporter => serde.text exporter.node <;> rfl

/-! ### Reading sections -/

section Sections

variable {α : Type} {read : Yaml → Option α} {value : Entries → Option α} {key : String} {node : Entries → Yaml × Yaml}
  {entries : List Entries}

theorem asMap_section (reads : ∀ entry, read (node entry).2 = value entry)
    (keyed : ∀ entry ∈ entries, (node entry).1 = .string (nameOf key entry)) (given : entries ≠ []) :
    asMap serde read (sectionNode key node entries) =
      ((entries.mergeSort (precedesBy key)).mapM fun entry => (value entry).map fun result => (nameOf key entry, result)).map
        .ofList := by
  have sorted : (entries.mergeSort (precedesBy key)).Perm entries := List.mergeSort_perm _ _
  have some_entry : (entries.mergeSort (precedesBy key)).map node ≠ [] := by
    intro nothing
    rw [List.map_eq_nil_iff] at nothing
    rw [nothing] at sorted
    exact given sorted.nil_eq.symm
  have shown : (entries.mergeSort (precedesBy key)).map node =
      ((entries.mergeSort (precedesBy key)).map fun entry => (nameOf key entry, (node entry).2)).map
        fun field => (.string field.1, field.2) := by
    rw [List.map_map]
    apply List.map_congr_left
    intro entry member
    exact Prod.ext (keyed entry (sorted.mem_iff.mp member)) rfl
  have fields : asFields serde (sectionNode key node entries) =
      some ((entries.mergeSort (precedesBy key)).map fun entry => (nameOf key entry, (node entry).2)) := by
    unfold sectionNode blockNode
    rw [if_neg some_entry, shown]
    exact mappingFields_strings lawful _
  unfold asMap
  rw [fields]
  simp only [Option.bind_eq_bind, Option.bind_some, List.mapM_map, Function.comp_def, reads]
  cases (entries.mergeSort (precedesBy key)).mapM fun entry => (value entry).map fun result => (nameOf key entry, result) <;>
    rfl

theorem exists_asMap_section_iff (reads : ∀ entry, read (node entry).2 = value entry)
    (keyed : ∀ entry ∈ entries, (node entry).1 = .string (nameOf key entry)) (given : entries ≠ []) :
    (∃ map, asMap serde read (sectionNode key node entries) = some map) ↔ ∀ entry ∈ entries, (value entry).isSome = true := by
  have sorted : (entries.mergeSort (precedesBy key)).Perm entries := List.mergeSort_perm _ _
  rw [asMap_section lawful reads keyed given]
  constructor
  · rintro ⟨map, made⟩ entry member
    obtain ⟨results, mapped, -⟩ := Option.map_eq_some_iff.mp made
    obtain ⟨result, -, one⟩ := exists_right_of_forall₂ (mapM_eq_some_iff.mp mapped) (sorted.mem_iff.mpr member)
    obtain ⟨found, same, -⟩ := Option.map_eq_some_iff.mp one
    exact Option.isSome_of_eq_some same
  · intro readable
    have each : ∀ entry ∈ entries.mergeSort (precedesBy key), ∃ result,
        (value entry).map (fun result => (nameOf key entry, result)) = some result := by
      intro entry member
      obtain ⟨found, same⟩ := Option.isSome_iff_exists.mp (readable entry (sorted.mem_iff.mp member))
      exact ⟨_, Option.map_eq_some_iff.mpr ⟨found, same, rfl⟩⟩
    obtain ⟨results, all⟩ := exists_forall₂_iff.mpr each
    exact ⟨_, Option.map_eq_some_iff.mpr ⟨results, mapM_eq_some_iff.mpr all, rfl⟩⟩

/-- The map has the value of the last entry of each name. -/
theorem related_asMap_section (reads : ∀ entry, read (node entry).2 = value entry)
    (keyed : ∀ entry ∈ entries, (node entry).1 = .string (nameOf key entry)) (given : entries ≠ [])
    {map : OrderedMap String α} (made : asMap serde read (sectionNode key node entries) = some map) :
    OrderedMap.Related (fun entry result => value entry = some result) (lastNamed key entries) map := by
  rw [asMap_section lawful reads keyed given] at made
  obtain ⟨results, mapped, rfl⟩ := Option.map_eq_some_iff.mp made
  have start : OrderedMap.Related (fun entry result => value entry = some result) (.empty : OrderedMap String Entries)
      (.empty : OrderedMap String α) := fun _ => .none
  apply start.insertAll
  rw [List.forall₂_map_left_iff]
  apply (mapM_eq_some_iff.mp mapped).imp
  intro entry result one
  obtain ⟨found, same, rfl⟩ := Option.map_eq_some_iff.mp one
  exact ⟨rfl, same⟩

end Sections

/-! ### Reading documents -/

omit lawful in
/-- The names in a section, without repetitions. -/
theorem mem_keys_lastNamed {key name : String} {entries : List Entries} :
    name ∈ (lastNamed key entries).keys ↔ ∃ entry ∈ entries, nameOf key entry = name := by
  have sorted : (entries.mergeSort (precedesBy key)).Perm entries := List.mergeSort_perm _ _
  unfold lastNamed
  rw [OrderedMap.mem_keys_ofList]
  simp only [List.mem_map, exists_exists_and_eq_and, sorted.mem_iff]

def processorsOf (serde : Serde) (enumerate : Entries → Entries) (config : PipelineConfig) :
    Option (Option (OrderedMap String FileProcessorConfig)) :=
  if config.processors = [] then some none
  else (asMap serde (FileProcessorConfig.read serde)
    (sectionNode "name" (entryNode enumerate processorKeys) config.processors)).map some

/-- The fields of the document. -/
def documentFields (enumerate : Entries → Entries) (config : PipelineConfig) : List (String × Yaml) := [
  ("tenant", .string config.tenantId),
  ("pipeline", .string config.name),
  ("receivers", sectionNode "name" (entryNode enumerate receiverKeys) config.receivers),
  ("processors", sectionNode "name" (entryNode enumerate processorKeys) config.processors),
  ("exporters", sectionNode "name" (entryNode enumerate exporterKeys) config.exporters),
  ("routes", sectionNode "signal" routeNode config.routes)]

theorem asFields_document (config : PipelineConfig) :
    asFields serde (documentOf enumerate config) = some (documentFields enumerate config) :=
  mappingFields_strings lawful (documentFields enumerate config)

omit lawful in
theorem processors_document (config : PipelineConfig) :
    optionalField "processors" (asMap serde (FileProcessorConfig.read serde)) (documentFields enumerate config) =
      processorsOf serde enumerate config := by
  have found : fieldValue "processors" (documentFields enumerate config) =
      some (some (sectionNode "name" (entryNode enumerate processorKeys) config.processors)) := rfl
  unfold optionalField processorsOf
  rw [found]
  by_cases nothing : config.processors = []
  · have empty : sectionNode "name" (entryNode enumerate processorKeys) [] = .null := by
      simp [sectionNode, blockNode]
    rw [nothing, empty, if_pos rfl]
  · have given : (config.processors.mergeSort (precedesBy "name")).map (entryNode enumerate processorKeys) ≠ [] := by
      intro empty
      rw [List.map_eq_nil_iff] at empty
      have sorted := List.mergeSort_perm config.processors (precedesBy "name")
      rw [empty] at sorted
      exact nothing sorted.nil_eq.symm
    rw [if_neg nothing, sectionNode, blockNode, if_neg given]

theorem read_document (config : PipelineConfig) :
    FilePipelineConfig.read serde (documentOf enumerate config) = (do
      let receivers ← asMap serde (FileReceiverConfig.read serde)
        (sectionNode "name" (entryNode enumerate receiverKeys) config.receivers)
      let processors ← processorsOf serde enumerate config
      let exporters ← asMap serde (FileExporterConfig.read serde)
        (sectionNode "name" (entryNode enumerate exporterKeys) config.exporters)
      let routes ← asMap serde (FileRouteConfig.read serde) (sectionNode "signal" routeNode config.routes)
      return ⟨config.tenantId, some config.name, receivers, processors, exporters, routes, none⟩) := by
  have tenant : requiredField "tenant" serde.text (documentFields enumerate config) = some config.tenantId :=
    lawful.string config.tenantId
  have pipeline : optionalField "pipeline" serde.text (documentFields enumerate config) = some (some config.name) := by
    change (serde.text (.string config.name)).map some = _
    rw [lawful.string]
    rfl
  have limits : optionalField "limits" (FileTenantLimits.read serde) (documentFields enumerate config) = some none := rfl
  unfold FilePipelineConfig.read
  rw [asFields_document lawful]
  simp only [Option.bind_eq_bind, Option.bind_some, tenant, pipeline, limits, processors_document]
  rfl

end Reading

/-! ### What the control plane has checked -/

theorem namesExporter_of_validate {config : PipelineConfig} (accepted : validate config = .ok ()) {route : Entries}
    (member : route ∈ config.routes) {exporter : Term} (listed : exporter ∈ routeExporters route) :
    namesExporter config.exporters exporter = true := by
  obtain ⟨-, -, -, -, -, checked⟩ := (validate_eq_ok_iff config).mp accepted
  obtain ⟨results, mapped, known⟩ := (validateRouteExporters_eq_ok_iff _ _).mp checked
  obtain ⟨result, inside, same⟩ := exists_right_of_forall₂ (mapM_eq_some_iff.mp mapped) member
  apply known exporter
  refine List.mem_flatten.mpr ⟨result, inside, ?_⟩
  unfold routeExporters at listed
  cases found : mapGet route "exporters" with
  | none =>
    rw [found] at listed
    cases listed
  | some value =>
    rw [found] at listed same
    change enumerated value = some result at same
    rw [Option.bind_some, same] at listed
    exact listed

/-- An exporter of a route is the name of one. -/
theorem exporter_is_name {exporters : List Entries} {exporter : Term}
    (named : ∀ entry ∈ exporters, ∃ name, mapGet entry "name" = some (.scalar (.string name)) ∧ isBlank name = false)
    (known : namesExporter exporters exporter = true) :
    ∃ entry ∈ exporters, exporter = .scalar (.string (nameOf "name" entry)) := by
  cases exporter with
  | list items => cases known
  | map entries => cases known
  | scalar value =>
    obtain ⟨entry, member, same⟩ := List.any_eq_true.mp known
    obtain ⟨name, found, -⟩ := named entry member
    rw [found] at same
    refine ⟨entry, member, ?_⟩
    rw [(nameNode_of_string found).1, ← of_decide_eq_true same]

/-- The exporters of a route of an accepted pipeline, as the agent reads them. -/
theorem routeExporters_read {serde : Serde} (lawful : serde.Lawful) {config : PipelineConfig}
    (accepted : validate config = .ok ()) (identifiers : Identifiers config) {route : Entries} (member : route ∈ config.routes) :
    ∃ names, ((routeExporters route).mapM fun exporter => serde.text exporter.node) = some names ∧
      (names = [] ↔ routeExporters route = []) ∧ ∀ name ∈ names, ∃ entry ∈ config.exporters, nameOf "name" entry = name := by
  have known : ∀ exporter ∈ routeExporters route, ∃ entry ∈ config.exporters,
      exporter = .scalar (.string (nameOf "name" entry)) := fun exporter listed =>
    exporter_is_name (identifiers.names config.exporters (by simp)) (namesExporter_of_validate accepted member listed)
  have each : ∀ exporter ∈ routeExporters route, ∃ name, serde.text exporter.node = some name := by
    intro exporter listed
    obtain ⟨entry, -, rfl⟩ := known exporter listed
    exact ⟨_, lawful.string _⟩
  obtain ⟨names, all⟩ := exists_forall₂_iff.mpr each
  refine ⟨names, mapM_eq_some_iff.mpr all, ?_, ?_⟩
  · rw [← List.length_eq_zero_iff, ← List.length_eq_zero_iff, all.length_eq]
  · intro name inside
    obtain ⟨exporter, listed, same⟩ := exists_left_of_forall₂ all inside
    obtain ⟨entry, here, rfl⟩ := known exporter listed
    have text : serde.text (.string (nameOf "name" entry)) = some name := same
    rw [lawful.string] at text
    exact ⟨entry, here, Option.some.inj text⟩

/-! ### Acceptance -/

section Acceptance

variable {serde : Serde} (lawful : serde.Lawful) {enumerate : Entries → Entries} {config : PipelineConfig}

theorem forall_mem_lastNamed {key : String} {entries : List Entries} {α : Type} {f : Entries → Option α}
    {map : OrderedMap String α}
    (related : OrderedMap.Related (fun entry result => f entry = some result) (lastNamed key entries) map) {P : String → Prop} :
    (∀ binding ∈ map.entries, P binding.1) ↔ ∀ entry ∈ entries, P (nameOf key entry) := by
  have keys : (∀ binding ∈ map.entries, P binding.1) ↔ ∀ name ∈ map.keys, P name := List.forall_mem_map.symm
  rw [keys]
  simp only [related.mem_keys, mem_keys_lastNamed, forall_exists_index, and_imp, forall_apply_eq_imp_iff₂]

theorem ne_nil_of_related {key : String} {entries : List Entries} {α : Type} {f : Entries → Option α}
    {map : OrderedMap String α} (given : entries ≠ [])
    (related : OrderedMap.Related (fun entry result => f entry = some result) (lastNamed key entries) map) :
    map.entries ≠ [] := by
  intro nothing
  obtain ⟨entry, rest, rfl⟩ := List.exists_cons_of_ne_nil given
  have listed : nameOf key entry ∈ map.keys :=
    related.mem_keys.mpr (mem_keys_lastNamed.mpr ⟨entry, List.mem_cons_self, rfl⟩)
  unfold OrderedMap.keys at listed
  rw [nothing] at listed
  cases listed

theorem Identifiers.keyed {entries : List Entries} (identifiers : Identifiers config)
    (section_ : entries ∈ [config.receivers, config.processors, config.exporters]) (keys : List String) :
    ∀ entry ∈ entries, (entryNode enumerate keys entry).1 = .string (nameOf "name" entry) := by
  intro entry member
  obtain ⟨name, found, -⟩ := identifiers.names entries section_ entry member
  obtain ⟨same, node⟩ := nameNode_of_string found
  rw [same]
  exact node

theorem Identifiers.solid {entries : List Entries} (identifiers : Identifiers config)
    (section_ : entries ∈ [config.receivers, config.processors, config.exporters]) :
    ∀ entry ∈ entries, isBlank (nameOf "name" entry) = false := by
  intro entry member
  obtain ⟨name, found, solid⟩ := identifiers.names entries section_ entry member
  rw [(nameNode_of_string found).1]
  exact solid

theorem Identifiers.routed (identifiers : Identifiers config) :
    ∀ route ∈ config.routes, (routeNode route).1 = .string (nameOf "signal" route) := by
  intro route member
  obtain ⟨signal, found⟩ := identifiers.signals route member
  obtain ⟨same, node⟩ := nameNode_of_string found
  rw [same]
  exact node

include lawful in
/-- The checks of the agent that are left, once the entries are read. -/
theorem accepted_file_iff (accepted : validate config = .ok ()) (identifiers : Identifiers config)
    {receivers : OrderedMap String FileReceiverConfig} {processors : Option (OrderedMap String FileProcessorConfig)}
    {exporters : OrderedMap String FileExporterConfig} {routes : OrderedMap String FileRouteConfig}
    (receiversRead : OrderedMap.Related (fun entry result => receiverOf serde enumerate entry = some result)
      (lastNamed "name" config.receivers) receivers)
    (processorsRead : OrderedMap.Related (fun entry result => processorOf serde enumerate entry = some result)
      (lastNamed "name" config.processors) (processors.getD .empty))
    (exportersRead : OrderedMap.Related (fun entry result => exporterOf serde enumerate entry = some result)
      (lastNamed "name" config.exporters) exporters)
    (routesRead : OrderedMap.Related (fun route result => routeOf serde route = some result)
      (lastNamed "signal" config.routes) routes) :
    (FilePipelineConfig.mk config.tenantId (some config.name) receivers processors exporters routes none).Accepted ↔
      (∀ binding ∈ (lastNamed "name" config.receivers).entries, ∀ receiver ∈ receiverOf serde enumerate binding.2,
        (receiverProtocolOf (normalizeToken receiver.protocol)).isSome = true) ∧
      (∀ entry ∈ config.processors, (processorKindOf (normalizeToken (nameOf "name" entry))).isSome = true) ∧
      (∀ binding ∈ (lastNamed "name" config.exporters).entries, ∀ exporter ∈ exporterOf serde enumerate binding.2,
        (exporterProtocolOf (normalizeToken exporter.protocol)).isSome = true ∧
          PositiveRetry ((exporter.retry.map FileExporterRetryConfig.into).getD .default)) ∧
      (∀ route ∈ config.routes, (Core.SignalKind.fromToken (normalizeToken (nameOf "signal" route))).isSome = true) ∧
      (∀ binding ∈ (lastNamed "signal" config.routes).entries, routeExporters binding.2 ≠ []) := by
  obtain ⟨tenant, name, someReceiver, someExporter, someRoute, -⟩ := (validate_eq_ok_iff config).mp accepted
  -- the exporters of a route that is read
  have routed : ∀ binding ∈ (lastNamed "signal" config.routes).entries, ∀ result ∈ routeOf serde binding.2,
      (result.exporters = [] ↔ routeExporters binding.2 = []) ∧ ∀ name ∈ result.exporters, name ∈ exporters.keys := by
    intro binding member result found
    obtain ⟨route, inside, rfl⟩ := List.mem_map.mp (OrderedMap.mem_ofList member)
    have listed : route ∈ config.routes := (List.mergeSort_perm _ _).mem_iff.mp inside
    obtain ⟨names, read, empty, known⟩ := routeExporters_read lawful accepted identifiers listed
    unfold routeOf at found
    rw [read] at found
    cases found
    refine ⟨empty, fun name inNames => ?_⟩
    obtain ⟨entry, here, same⟩ := known name inNames
    exact exportersRead.mem_keys.mpr (mem_keys_lastNamed.mpr ⟨entry, here, same⟩)
  have receiverTokens := receiversRead.forall_iff (P := fun _ receiver =>
    (receiverProtocolOf (normalizeToken receiver.protocol)).isSome = true)
  have kindTokens := forall_mem_lastNamed processorsRead (P := fun name =>
    (processorKindOf (normalizeToken name)).isSome = true)
  have exporterTokens := exportersRead.forall_iff (P := fun _ exporter =>
    (exporterProtocolOf (normalizeToken exporter.protocol)).isSome = true ∧
      PositiveRetry ((exporter.retry.map FileExporterRetryConfig.into).getD .default))
  have signalTokens := forall_mem_lastNamed routesRead (P := fun signal =>
    (Core.SignalKind.fromToken (normalizeToken signal)).isSome = true)
  rw [← receiverTokens, ← kindTokens, ← exporterTokens, ← signalTokens]
  constructor
  · intro file
    refine ⟨?_, ?_, ?_, ?_, ?_⟩
    · exact fun binding member => (file.receivers binding member).2
    · exact fun binding member => (file.processors binding member).2
    · exact fun binding member => (file.exporters binding member).2
    · exact fun binding member => (file.routes binding member).1
    · intro binding member
      obtain ⟨result, listed, same⟩ := routesRead.mem_left member
      exact mt (routed binding member result same).1.mpr (file.routes _ listed).2.1
  · rintro ⟨protocols, kinds, targets, signals, given⟩
    have receiverNames := (forall_mem_lastNamed receiversRead (P := fun name => isBlank name = false)).mpr
      (identifiers.solid (by simp))
    have processorNames := (forall_mem_lastNamed processorsRead (P := fun name => isBlank name = false)).mpr
      (identifiers.solid (by simp))
    have exporterNames := (forall_mem_lastNamed exportersRead (P := fun name => isBlank name = false)).mpr
      (identifiers.solid (by simp))
    constructor
    · exact tenant
    · exact name
    · exact ⟨ne_nil_of_related someReceiver receiversRead, ne_nil_of_related someExporter exportersRead,
        ne_nil_of_related someRoute routesRead⟩
    · show PositiveLimits .default
      unfold PositiveLimits
      decide
    · exact fun binding member => ⟨receiverNames binding member, protocols binding member⟩
    · exact fun binding member => ⟨processorNames binding member, kinds binding member⟩
    · exact fun binding member => ⟨exporterNames binding member, targets binding member⟩
    · intro binding member
      obtain ⟨route, listed, same⟩ := routesRead.mem_right member
      have found := routed _ listed binding.2 same
      exact ⟨signals binding member, mt found.1.mp (given _ listed), found.2⟩

/-! ### Sections and documents -/

include lawful

theorem exists_processorsOf_iff (identifiers : Identifiers config) :
    (∃ processors, processorsOf serde enumerate config = some processors) ↔
      ∀ entry ∈ config.processors, (processorOf serde enumerate entry).isSome = true := by
  unfold processorsOf
  split_ifs with nothing
  · rw [nothing]
    exact ⟨(fun _ _ member => nomatch member), fun _ => ⟨none, rfl⟩⟩
  · rw [← exists_asMap_section_iff lawful (read_processor lawful) (identifiers.keyed (by simp) processorKeys) nothing]
    constructor
    · rintro ⟨processors, made⟩
      obtain ⟨map, read, -⟩ := Option.map_eq_some_iff.mp made
      exact ⟨map, read⟩
    · rintro ⟨map, read⟩
      exact ⟨some map, Option.map_eq_some_iff.mpr ⟨map, read, rfl⟩⟩

theorem related_processorsOf (identifiers : Identifiers config) {processors : Option (OrderedMap String FileProcessorConfig)}
    (made : processorsOf serde enumerate config = some processors) :
    OrderedMap.Related (fun entry result => processorOf serde enumerate entry = some result)
      (lastNamed "name" config.processors) (processors.getD .empty) := by
  unfold processorsOf at made
  split_ifs at made with nothing
  · cases made
    have empty : lastNamed "name" config.processors = .empty := by
      rw [nothing, lastNamed, List.mergeSort_nil]
      rfl
    rw [empty]
    exact fun _ => .none
  · obtain ⟨map, read, rfl⟩ := Option.map_eq_some_iff.mp made
    exact related_asMap_section lawful (read_processor lawful) (identifiers.keyed (by simp) processorKeys) nothing read

/-- A route of an accepted pipeline can always be read. -/
theorem routeOf_isSome (accepted : validate config = .ok ()) (identifiers : Identifiers config) :
    ∀ route ∈ config.routes, (routeOf serde route).isSome = true := by
  intro route member
  obtain ⟨names, read, -⟩ := routeExporters_read lawful accepted identifiers member
  unfold routeOf
  rw [read]
  rfl

/-- The agent accepts the document of an accepted pipeline exactly when it can run it. -/
theorem accepted_document_iff (accepted : validate config = .ok ()) (identifiers : Identifiers config) :
    (∃ file, FilePipelineConfig.read serde (documentOf enumerate config) = some file ∧ file.Accepted) ↔
      Runnable serde enumerate config := by
  obtain ⟨-, -, someReceiver, someExporter, someRoute, -⟩ := (validate_eq_ok_iff config).mp accepted
  have receiversKeyed : ∀ entry ∈ config.receivers, (entryNode enumerate receiverKeys entry).1 = .string (nameOf "name" entry) :=
    identifiers.keyed (by simp) receiverKeys
  have exportersKeyed : ∀ entry ∈ config.exporters, (entryNode enumerate exporterKeys entry).1 = .string (nameOf "name" entry) :=
    identifiers.keyed (by simp) exporterKeys
  have readableProcessors : (∃ processors, processorsOf serde enumerate config = some processors) ↔ _ :=
    exists_processorsOf_iff lawful identifiers
  have readableReceivers := exists_asMap_section_iff lawful (read_receiver lawful) receiversKeyed someReceiver
  have readableExporters := exists_asMap_section_iff lawful (read_exporter lawful) exportersKeyed someExporter
  have readableRoutes := exists_asMap_section_iff lawful (read_route lawful) identifiers.routed someRoute
  rw [read_document lawful]
  constructor
  · rintro ⟨file, read, fine⟩
    simp only [Option.bind_eq_bind, Option.bind_eq_some_iff] at read
    obtain ⟨receivers, receiversMade, processors, processorsMade, exporters, exportersMade, routes, routesMade, made⟩ := read
    cases made
    obtain ⟨protocols, kinds, targets, signals, routed⟩ := (accepted_file_iff lawful accepted identifiers
      (related_asMap_section lawful (read_receiver lawful) receiversKeyed someReceiver receiversMade)
      (related_processorsOf lawful identifiers processorsMade)
      (related_asMap_section lawful (read_exporter lawful) exportersKeyed someExporter exportersMade)
      (related_asMap_section lawful (read_route lawful) identifiers.routed someRoute routesMade)).mp fine
    have processorsRead := readableProcessors.mp ⟨processors, processorsMade⟩
    exact {
      receivers := readableReceivers.mp ⟨receivers, receiversMade⟩
      processors := fun entry member => ⟨processorsRead entry member, kinds entry member⟩
      exporters := readableExporters.mp ⟨exporters, exportersMade⟩
      signals := signals
      receiverProtocols := protocols
      exporterProtocols := targets
      routed := routed }
  · intro runnable
    obtain ⟨receivers, receiversMade⟩ := readableReceivers.mpr runnable.receivers
    obtain ⟨processors, processorsMade⟩ := readableProcessors.mpr
      fun entry member => (runnable.processors entry member).1
    obtain ⟨exporters, exportersMade⟩ := readableExporters.mpr runnable.exporters
    obtain ⟨routes, routesMade⟩ := readableRoutes.mpr (routeOf_isSome lawful accepted identifiers)
    rw [receiversMade, processorsMade, exportersMade, routesMade]
    refine ⟨_, rfl, ?_⟩
    apply (accepted_file_iff lawful accepted identifiers
      (related_asMap_section lawful (read_receiver lawful) receiversKeyed someReceiver receiversMade)
      (related_processorsOf lawful identifiers processorsMade)
      (related_asMap_section lawful (read_exporter lawful) exportersKeyed someExporter exportersMade)
      (related_asMap_section lawful (read_route lawful) identifiers.routed someRoute routesMade)).mpr
    exact ⟨runnable.receiverProtocols, fun entry member => (runnable.processors entry member).2, runnable.exporterProtocols,
      runnable.signals, runnable.routed⟩

theorem exists_parsePipelineConfig_iff {text : String} (accepted : validate config = .ok ()) (identifiers : Identifiers config)
    (read : serde.read text = some (documentOf enumerate config)) :
    (∃ parsed, parsePipelineConfig serde text = .ok parsed) ↔ Runnable serde enumerate config := by
  rw [← accepted_document_iff lawful accepted identifiers, parsePipelineConfig, read, Option.bind_some]
  cases FilePipelineConfig.read serde (documentOf enumerate config) with
  | none => simp
  | some file => simpa using exists_intoPipelineConfig_iff

omit lawful in
theorem validate_of_rendered {text : String} (rendered : toAgentYaml enumerate config = some text) :
    validate config = .ok () := by
  unfold toAgentYaml at rendered
  cases checked : validate config with
  | error error =>
    rw [checked] at rendered
    cases rendered
  | ok done => rfl

/-- What the control plane publishes is accepted exactly when the agent can run it. An agent that
cannot stays as it is. -/
theorem published_pipeline_accepted_iff {text : String} (rendered : toAgentYaml enumerate config = some text)
    (identifiers : Identifiers config) (read : serde.read text = some (documentOf enumerate config)) :
    ((∃ parsed, parsePipelineConfig serde text = .ok parsed) ↔ Runnable serde enumerate config) ∧
      (¬Runnable serde enumerate config → ∀ (E : Type) (client : ControlClient E) (update : Agent.ConfigUpdate)
        (session : AgentSession E), client.serde = serde → update.pipelineConfig = text →
          ∃ error, client.fetchAndApplyConfig (some (some update)) session = (.error error, session)) := by
  have accepted := validate_of_rendered rendered
  have parses := exists_parsePipelineConfig_iff lawful accepted identifiers read
  refine ⟨parses, ?_⟩
  intro unfit E client update session same payload
  cases checked : client.validateConfigUpdate update with
  | error error =>
    refine ⟨error, ?_⟩
    simp only [ControlClient.fetchAndApplyConfig, checked]
  | ok parsed =>
    obtain ⟨-, -, parsedOk⟩ := ControlClient.validateConfigUpdate_eq_ok.mp checked
    rw [same, payload] at parsedOk
    exact absurd (parses.mp ⟨parsed, parsedOk⟩) unfit

end Acceptance

/-! ### Pipelines that are published -/

/-- One receiver of the given protocol, and one exporter. -/
def serving (protocol : String) : PipelineConfig where
  tenantId := "tenant-a"
  name := "edge"
  receivers := [keyed [("name", "otlp-in"), ("protocol", protocol), ("endpoint", "0.0.0.0:4317")]]
  processors := []
  exporters := [keyed [("name", "out"), ("protocol", "stdout"), ("endpoint", "stdout")]]
  routes := [keyed [("signal", "logs")] ++ [(.string "exporters", .list [.scalar (.string "out")])]]
  version := 1

theorem legible_serving {protocol : String} (quotable : Quotable protocol) : Legible (serving protocol) where
  tenant := show Quotable "tenant-a" by decide
  name := show Quotable "edge" by decide
  receivers := by
    refine ⟨?_, List.pairwise_singleton _ _, ?_⟩
    · intro entry member
      rw [List.mem_singleton.mp member]
      exact ⟨.string "otlp-in", rfl, isKey_iff_namesItself.mpr (by decide)⟩
    · intro entry member key listed value found
      rw [List.mem_singleton.mp member] at found
      rcases List.mem_pair.mp listed with rfl | rfl
      · cases found
        exact quotable
      · cases found
        show Quotable "0.0.0.0:4317"
        decide
  processors := ⟨(fun _ member => nomatch member), List.Pairwise.nil, fun _ member => nomatch member⟩
  exporters := by
    refine ⟨?_, List.pairwise_singleton _ _, ?_⟩
    · intro entry member
      rw [List.mem_singleton.mp member]
      exact ⟨.string "out", rfl, isKey_iff_namesItself.mpr (by decide)⟩
    · intro entry member key listed value found
      rw [List.mem_singleton.mp member] at found
      simp only [exporterKeys, List.mem_cons, List.not_mem_nil, or_false] at listed
      rcases listed with rfl | rfl | rfl | rfl
      · cases found
        show Quotable "stdout"
        decide
      · cases found
        show Quotable "stdout"
        decide
      · cases found
      · cases found
  routes := by
    refine ⟨?_, List.pairwise_singleton _ _, ?_⟩
    · intro route member
      rw [List.mem_singleton.mp member]
      exact ⟨.string "logs", rfl, isKey_iff_namesItself.mpr (by decide)⟩
    · intro route member exporter listed
      rw [List.mem_singleton.mp member] at listed
      rw [List.mem_singleton.mp listed]
      show Quotable "out"
      decide

theorem identifiers_serving (protocol : String) : Identifiers (serving protocol) where
  names := by
    intro entries section_ entry member
    simp only [List.mem_cons, List.not_mem_nil, or_false] at section_
    rcases section_ with rfl | rfl | rfl
    · rw [List.mem_singleton.mp member]
      exact ⟨"otlp-in", rfl, by decide⟩
    · cases member
    · rw [List.mem_singleton.mp member]
      exact ⟨"out", rfl, by decide⟩
  signals := by
    intro route member
    rw [List.mem_singleton.mp member]
    exact ⟨"logs", rfl⟩

theorem read_serving {protocol text : String} (quotable : Quotable protocol)
    (rendered : toAgentYaml id (serving protocol) = some text) :
    Serde.core.read text = some (documentOf id (serving protocol)) :=
  readYaml_toAgentYaml (fun entries => List.Perm.refl entries) rendered (legible_serving quotable)

/-- The agent reads from the text what it would read from the document. -/
theorem parse_serving {protocol text : String} (quotable : Quotable protocol)
    (rendered : toAgentYaml id (serving protocol) = some text) :
    parsePipelineConfig Serde.core text =
      (FilePipelineConfig.read Serde.core (documentOf id (serving protocol))).elim (.error .yaml)
        FilePipelineConfig.intoPipelineConfig := by
  unfold parsePipelineConfig
  rw [read_serving quotable rendered, Option.bind_some]
  cases FilePipelineConfig.read Serde.core (documentOf id (serving protocol)) with
  | none => rfl
  | some file => rfl

theorem serving_accepted : Runnable Serde.core id (serving "otlp_grpc") := by
  have written : (toAgentYaml id (serving "otlp_grpc")).isSome = true := by decide +kernel
  obtain ⟨text, rendered⟩ := Option.isSome_iff_exists.mp written
  have taken : (parsePipelineConfig Serde.core text).toBool = true := by
    rw [parse_serving (by decide) rendered]
    decide +kernel
  have accepted := published_pipeline_accepted_iff Serde.lawful_core rendered (identifiers_serving "otlp_grpc")
    (read_serving (by decide) rendered)
  apply accepted.1.mp
  cases parsed : parsePipelineConfig Serde.core text with
  | error error =>
    rw [parsed] at taken
    cases taken
  | ok config => exact ⟨config, rfl⟩

/-- An unknown protocol passes the checks of the control plane. -/
theorem unknown_protocol_published : validate (serving "otlp_grcp") = .ok () ∧ Identifiers (serving "otlp_grcp") ∧
    ∃ text, toAgentYaml id (serving "otlp_grcp") = some text ∧
      Serde.core.read text = some (documentOf id (serving "otlp_grcp")) ∧
      parsePipelineConfig Serde.core text = .error (.message "unknown receiver protocol: otlp_grcp") := by
  have written : (toAgentYaml id (serving "otlp_grcp")).isSome = true := by decide +kernel
  obtain ⟨text, rendered⟩ := Option.isSome_iff_exists.mp written
  have refused : (parsePipelineConfig Serde.core text).map (fun _ => ()) =
      .error (.message "unknown receiver protocol: otlp_grcp") := by
    rw [parse_serving (by decide) rendered]
    decide +kernel
  refine ⟨by rfl, identifiers_serving _, text, rendered, read_serving (by decide) rendered, ?_⟩
  cases parsed : parsePipelineConfig Serde.core text with
  | error error =>
    rw [parsed] at refused
    cases refused
    rfl
  | ok config =>
    rw [parsed] at refused
    cases refused

end TelemetryFabric.ControlPlane
