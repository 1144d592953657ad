import TelemetryFabric.ControlPlane.PipelineConfig
import TelemetryFabric.Library.YamlText

/-!
What the text for agents means. A pipeline is a document; its text is read back as this document
if names, signals and the keys of inner maps, which are written without quotes, read as what they
are and differ from one another, and no quoted string holds a control character without an escape.
-/

namespace TelemetryFabric.ControlPlane
open Library Library.Yaml

/-! ### The document -/

def Scalar.node : Scalar → Yaml
  | .string text => .string text
  | .integer value => .int value
  | .boolean value => .bool value

/-- Lists and maps have no text here. -/
def Term.node : Term → Yaml
  | .scalar value => value.node
  | _ => .null

def nameNode (key : String) (entry : Entries) : Yaml := ((mapGet entry key).map Term.node).getD .null

def routeExporters (route : Entries) : List Term := ((mapGet route "exporters").bind enumerated).getD []

def routeNode (route : Entries) : Yaml × Yaml :=
  (nameNode "signal" route, .mapping [(.string "exporters", .sequence ((routeExporters route).map Term.node))])

section Document

variable (enumerate : Entries → Entries)

def fieldNode : Term → Yaml
  | .map entries =>
      blockNode (((enumerate entries).mergeSort byText).map fun entry => (.string entry.1.text, entry.2.node))
  | value => value.node

/-- The fields that an entry has, in the order of the keys. -/
def fieldNodes (keys : List String) (entry : Entries) : List (Yaml × Yaml) :=
  keys.filterMap fun key => (mapGet entry key).map fun value => (.string key, fieldNode enumerate value)

def entryNode (keys : List String) (entry : Entries) : Yaml × Yaml :=
  (nameNode "name" entry, blockNode (fieldNodes enumerate keys entry))

def sectionNode (key : String) (node : Entries → Yaml × Yaml) (entries : List Entries) : Yaml :=
  blockNode ((entries.mergeSort (precedesBy key)).map node)

def receiverKeys : List String := ["protocol", "endpoint"]
def processorKeys : List String := ["enabled"]
def exporterKeys : List String := ["protocol", "endpoint", "tls", "retry"]

def documentOf (config : PipelineConfig) : Yaml :=
  .mapping [
    (.string "tenant", .string config.tenantId),
    (.string "pipeline", .string config.name),
    (.string "receivers", sectionNode "name" (entryNode enumerate receiverKeys) config.receivers),
    (.string "processors", sectionNode "name" (entryNode enumerate processorKeys) config.processors),
    (.string "exporters", sectionNode "name" (entryNode enumerate exporterKeys) config.exporters),
    (.string "routes", sectionNode "signal" routeNode config.routes)]

end Document

/-! ### Legible pipelines -/

/-- No control characters but tabs and line feeds. -/
def Quotable (text : String) : Prop := ∀ c ∈ text.toList, isQuotable c = true

instance (text : String) : Decidable (Quotable text) := List.decidableBAll _ _

def Term.Quotable : Term → Prop
  | .scalar (.string text) => ControlPlane.Quotable text
  | _ => True

/-- An inner map has keys that read as the strings they are, and differ. -/
def Term.LegibleField : Term → Prop
  | .map entries =>
      (∀ entry ∈ entries, namesItself entry.1.text = true ∧ entry.2.Quotable) ∧ (entries.map fun entry => entry.1.text).Nodup
  | value => value.Quotable

/-- The name is a scalar whose text, without quotes, reads as this scalar. -/
def LegibleName (key : String) (entry : Entries) : Prop :=
  ∃ value, mapGet entry key = some (.scalar value) ∧ IsKey value.text.toList value.node

structure LegibleSection (key : String) (legible : Entries → Prop) (entries : List Entries) : Prop where
  named : ∀ entry ∈ entries, LegibleName key entry
  distinct : (entries.map (nameNode key)).Pairwise fun first second => sameKey first second = false
  each : ∀ entry ∈ entries, legible entry

def LegibleEntry (keys : List String) (entry : Entries) : Prop :=
  ∀ key ∈ keys, ∀ value ∈ mapGet entry key, value.LegibleField

def LegibleRoute (route : Entries) : Prop := ∀ exporter ∈ routeExporters route, exporter.Quotable

structure Legible (config : PipelineConfig) : Prop where
  tenant : Quotable config.tenantId
  name : Quotable config.name
  receivers : LegibleSection "name" (LegibleEntry receiverKeys) config.receivers
  processors : LegibleSection "name" (LegibleEntry processorKeys) config.processors
  exporters : LegibleSection "name" (LegibleEntry exporterKeys) config.exporters
  routes : LegibleSection "signal" LegibleRoute config.routes

/-! ### Scalars -/

/-- The three replacements do not touch what an earlier one has put in, but for the backslash. -/
theorem toList_escape (text : String) : (escape text).toList = text.toList.flatMap escapeChar := by
  simp only [escape, replaceChar, String.toList_ofList, List.flatMap_assoc]
  congr 1
  funext c
  unfold escapeChar
  split_ifs with backslash quote feed
  · rfl
  · subst quote
    rfl
  · subst feed
    rfl
  · simp [quote, feed]

theorem isFlow_escape {text : String} (quotable : Quotable text) :
    IsFlow ("\"" ++ escape text ++ "\"").toList (.string text) := by
  have quoted := isFlow_quoted quotable
  rw [String.ofList_toList] at quoted
  rw [String.toList_append, String.toList_append, toList_escape]
  exact quoted

theorem isFlow_yamlScalar {value : Term} {text : String} (written : yamlScalar value = some text)
    (quotable : value.Quotable) : IsFlow text.toList value.node := by
  unfold yamlScalar at written
  split at written
  next flag =>
    cases written
    exact isFlow_bool flag
  next number =>
    cases written
    rw [String.toList_ofList]
    exact isFlow_int number
  next string =>
    cases written
    exact isFlow_escape quotable
  next => cases written

/-! ### Lines -/

/-- Lines of text that write entries. -/
def Shows (indent : Nat) (lines : List String) (entries : List (Yaml × Yaml)) : Prop :=
  Writes indent (lines.map String.toList) entries

theorem Shows.append {indent : Nat} {first second : List String} {entries others : List (Yaml × Yaml)}
    (shows : Shows indent first entries) (onward : Shows indent second others) :
    Shows indent (first ++ second) (entries ++ others) := by
  unfold Shows
  rw [List.map_append]
  exact Writes.append shows onward

theorem Shows.flatten {α : Type} {indent : Nat} {items : List α} {lines : α → Option (List String)}
    {results : List (List String)} {node : α → Yaml × Yaml} (written : items.mapM lines = some results)
    (each : ∀ item ∈ items, ∀ result, lines item = some result → Shows indent result [node item]) :
    Shows indent results.flatten (items.map node) := by
  unfold Shows
  rw [List.map_flatten, ← List.flatMap_def]
  exact Writes.mapM written each

theorem toList_indented (indent : Nat) (spaces text : String) (width : spaces.toList = List.replicate indent ' ') :
    (spaces ++ text ++ ":").toList = List.replicate indent ' ' ++ (text.toList ++ [':']) := by
  rw [String.toList_append, String.toList_append, width, List.append_assoc]
  rfl

theorem toList_indented_value (indent : Nat) (spaces text value : String)
    (width : spaces.toList = List.replicate indent ' ') :
    (spaces ++ text ++ ": " ++ value).toList = List.replicate indent ' ' ++ (text.toList ++ ':' :: ' ' :: value.toList) := by
  rw [String.toList_append, String.toList_append, String.toList_append, width, List.append_assoc, List.append_assoc]
  rfl

section Lines

variable {enumerate : Entries → Entries}

theorem shows_field {key : String} {value : Term} {lines : List String}
    (lawful : ∀ entries, (enumerate entries).Perm entries) (named : namesItself key = true)
    (written : yamlField enumerate key value = some lines) (legible : value.LegibleField) :
    Shows 4 lines [(.string key, fieldNode enumerate value)] := by
  have isKey := isKey_iff_namesItself.mpr named
  have plain : ∀ text, yamlScalar value = some text → lines = ["    " ++ key ++ ": " ++ text] → value.Quotable →
      Shows 4 lines [(.string key, value.node)] := by
    rintro text scalar rfl quotable
    unfold Shows
    rw [List.map_singleton, toList_indented_value 4 _ _ _ rfl]
    exact Writes.flow isKey (isFlow_yamlScalar scalar quotable)
  unfold yamlField at written
  cases value with
  | map entries =>
    obtain ⟨inner, mapped, same⟩ := Option.bind_eq_some_iff.mp written
    cases same
    have sorted : ((enumerate entries).mergeSort byText).Perm entries :=
      (List.mergeSort_perm _ _).trans (lawful entries)
    have below : Writes 6 (inner.flatMap fun line => [line.toList])
        (((enumerate entries).mergeSort byText).map fun entry => (.string entry.1.text, entry.2.node)) := by
      apply Writes.mapM mapped
      intro entry member line shown
      obtain ⟨itself, quotable⟩ := legible.1 entry (sorted.mem_iff.mp member)
      obtain ⟨text, scalar, same⟩ := Option.bind_eq_some_iff.mp shown
      cases same
      rw [toList_indented_value 6 _ _ _ rfl]
      exact Writes.flow (isKey_iff_namesItself.mpr itself) (isFlow_yamlScalar scalar quotable)
    have distinct : keysDiffer (((enumerate entries).mergeSort byText).map fun entry =>
        (Yaml.string entry.1.text, entry.2.node)) = true := by
      rw [keysDiffer_of_perm (sorted.map _), keysDiffer_iff, List.map_map, List.pairwise_map]
      have texts := List.pairwise_map.mp legible.2
      exact texts.imp fun differ => beq_eq_false_iff_ne.mpr differ
    unfold Shows
    rw [List.map_cons, toList_indented 4 _ _ rfl]
    rw [← List.map_eq_flatMap] at below
    exact Writes.block isKey (by decide) below distinct
  | scalar value =>
    obtain ⟨text, scalar, same⟩ := Option.bind_eq_some_iff.mp written
    exact plain text scalar (Option.some.inj same).symm legible
  | list items =>
    obtain ⟨text, scalar, same⟩ := Option.bind_eq_some_iff.mp written
    exact plain text scalar (Option.some.inj same).symm legible

theorem fieldNodes_eq (keys : List String) (entry : Entries) : fieldNodes enumerate keys entry =
    (keys.filter (mapHasKey entry)).map fun key =>
      (.string key, ((mapGet entry key).map (fieldNode enumerate)).getD .null) := by
  induction keys with
  | nil => rfl
  | cons key keys ih =>
    unfold fieldNodes at ih ⊢
    cases found : mapGet entry key with
    | none => simp [mapHasKey, found, ih]
    | some value => simp [mapHasKey, found, ih]

/-- A name stands for itself in the middle of a line. -/
theorem interpolate_name {key text : String} {entry : Entries} (legible : LegibleName key entry)
    (shown : interpolate (mapGet entry key) = some text) : IsKey text.toList (nameNode key entry) := by
  obtain ⟨value, found, isKey⟩ := legible
  rw [found] at shown
  cases shown
  unfold nameNode
  rw [found]
  exact isKey

theorem shows_entry {keys : List String} {entry : Entries} {lines : List String}
    (lawful : ∀ entries, (enumerate entries).Perm entries) (fixed : ∀ key ∈ keys, namesItself key = true)
    (different : keys.Nodup) (written : entryLines enumerate keys entry = some lines) (named : LegibleName "name" entry)
    (legible : LegibleEntry keys entry) : Shows 2 lines [entryNode enumerate keys entry] := by
  unfold entryLines at written
  obtain ⟨name, shown, rest⟩ := Option.bind_eq_some_iff.mp written
  obtain ⟨fields, mapped, same⟩ := Option.bind_eq_some_iff.mp rest
  cases same
  have below : Shows 4 fields.flatten (fieldNodes enumerate keys entry) := by
    rw [fieldNodes_eq]
    apply Shows.flatten mapped
    intro key member field shown
    have listed := (List.mem_filter.mp member).1
    obtain ⟨value, found, fieldShown⟩ := Option.bind_eq_some_iff.mp shown
    rw [found]
    exact shows_field lawful (fixed key listed) fieldShown (legible key listed value found)
  have distinct : keysDiffer (fieldNodes enumerate keys entry) = true := by
    rw [fieldNodes_eq, keysDiffer_iff, List.map_map, List.pairwise_map]
    exact (different.sublist List.filter_sublist).imp fun differ => beq_eq_false_iff_ne.mpr differ
  unfold Shows
  rw [List.map_cons, toList_indented 2 _ _ rfl]
  exact Writes.block (interpolate_name named shown) (by decide) below distinct

theorem isFlow_exporters {exporters : List Term} {texts : List String} (written : exporters.mapM yamlScalar = some texts)
    (quotable : ∀ exporter ∈ exporters, exporter.Quotable) :
    ∃ items : List (List Char × Yaml), items.map Prod.fst = texts.map String.toList ∧
      items.map Prod.snd = exporters.map Term.node ∧ ∀ item ∈ items, IsFlow item.1 item.2 := by
  induction exporters generalizing texts with
  | nil =>
    cases written
    exact ⟨[], rfl, rfl, fun _ member => nomatch member⟩
  | cons exporter exporters ih =>
    obtain ⟨first, others⟩ := List.forall_mem_cons.mp quotable
    rw [List.mapM_cons] at written
    obtain ⟨text, scalar, onward⟩ := Option.bind_eq_some_iff.mp written
    obtain ⟨more, rest, same⟩ := Option.bind_eq_some_iff.mp onward
    cases same
    obtain ⟨items, shown, nodes, flow⟩ := ih rest others
    refine ⟨(text.toList, exporter.node) :: items, ?_, ?_, ?_⟩
    · rw [List.map_cons, List.map_cons, shown]
    · rw [List.map_cons, List.map_cons, nodes]
    · exact List.forall_mem_cons.mpr ⟨isFlow_yamlScalar scalar first, flow⟩

theorem shows_route {route : Entries} {lines : List String} (written : routeLines route = some lines)
    (named : LegibleName "signal" route) (legible : LegibleRoute route) : Shows 2 lines [routeNode route] := by
  unfold routeLines at written
  obtain ⟨exporters, listed, rest⟩ := Option.bind_eq_some_iff.mp written
  obtain ⟨texts, mapped, rest⟩ := Option.bind_eq_some_iff.mp rest
  obtain ⟨signal, shown, same⟩ := Option.bind_eq_some_iff.mp rest
  cases same
  have exporters_eq : routeExporters route = exporters := by
    unfold routeExporters
    rw [listed]
    rfl
  unfold LegibleRoute at legible
  rw [exporters_eq] at legible
  obtain ⟨items, texts_eq, nodes_eq, flow⟩ := isFlow_exporters mapped legible
  have below : Writes 4 [List.replicate 4 ' ' ++ ("exporters".toList ++ ':' :: ' ' :: flowSequence (texts.map String.toList))]
      [(.string "exporters", .sequence (exporters.map Term.node))] := by
    rw [← texts_eq, ← nodes_eq]
    exact Writes.sequence (isKey_iff_namesItself.mpr (by decide)) flow
  have line : ("    exporters: [" ++ String.ofList ([',', ' '].intercalate (texts.map String.toList)) ++ "]").toList =
      List.replicate 4 ' ' ++ ("exporters".toList ++ ':' :: ' ' :: flowSequence (texts.map String.toList)) := by
    rw [String.toList_append, String.toList_append, String.toList_ofList]
    simp [flowSequence]
  unfold Shows
  rw [List.map_cons, List.map_singleton, toList_indented 2 _ _ rfl, line, routeNode, exporters_eq]
  exact Writes.block (interpolate_name named shown) (by decide) below (by rfl)

theorem shows_section {title key : String} {lines : Entries → Option (List String)} {node : Entries → Yaml × Yaml}
    {legible : Entries → Prop} {entries : List Entries} {shown : List String} (fixed : namesItself title = true)
    (written : sectionLines title (precedesBy key) lines entries = some shown)
    (legibles : LegibleSection key legible entries) (keyed : ∀ entry, (node entry).1 = nameNode key entry)
    (each : ∀ entry shown, lines entry = some shown → LegibleName key entry → legible entry → Shows 2 shown [node entry]) :
    Shows 0 shown [(.string title, sectionNode key node entries)] := by
  unfold sectionLines at written
  obtain ⟨results, mapped, same⟩ := Option.bind_eq_some_iff.mp written
  cases same
  have sorted : (entries.mergeSort (precedesBy key)).Perm entries := List.mergeSort_perm _ _
  have below : Shows 2 results.flatten ((entries.mergeSort (precedesBy key)).map node) := by
    apply Shows.flatten mapped
    intro entry member lines shown
    have listed := sorted.mem_iff.mp member
    exact each entry lines shown (legibles.named entry listed) (legibles.each entry listed)
  have distinct : keysDiffer ((entries.mergeSort (precedesBy key)).map node) = true := by
    rw [keysDiffer_of_perm (sorted.map node), keysDiffer_iff, List.map_map]
    have names : (Prod.fst ∘ node) = nameNode key := funext keyed
    rw [names]
    exact legibles.distinct
  have titled : Shows 0 ((title ++ ":") :: results.flatten) [(.string title, sectionNode key node entries)] := by
    unfold Shows
    rw [List.map_cons, String.toList_append]
    exact Writes.block (isKey_iff_namesItself.mpr fixed) (by decide) below distinct
  exact titled.append Writes.blank

theorem shows_quoted {title text : String} (fixed : namesItself title = true) (quotable : Quotable text) :
    Shows 0 [title ++ ": \"" ++ escape text ++ "\""] [(.string title, .string text)] := by
  have line : (title ++ ": \"" ++ escape text ++ "\"").toList =
      List.replicate 0 ' ' ++ (title.toList ++ ':' :: ' ' :: ("\"" ++ escape text ++ "\"").toList) := by
    simp [String.toList_append]
  unfold Shows
  rw [List.map_singleton, line]
  exact Writes.flow (isKey_iff_namesItself.mpr fixed) (isFlow_escape quotable)

end Lines

/-! ### The text -/

section Text

variable {enumerate : Entries → Entries} (lawful : ∀ entries, (enumerate entries).Perm entries)
include lawful

theorem shows_named_section {title : String} {keys : List String} {entries : List Entries} {shown : List String}
    (fixed : namesItself title = true) (fields : ∀ key ∈ keys, namesItself key = true) (different : keys.Nodup)
    (written : namedSection enumerate title entries keys = some shown)
    (legibles : LegibleSection "name" (LegibleEntry keys) entries) :
    Shows 0 shown [(.string title, sectionNode "name" (entryNode enumerate keys) entries)] := by
  apply shows_section fixed written legibles (fun _ => rfl)
  intro entry lines shown named legible
  exact shows_entry lawful fields different shown named legible

/-- The text of a legible pipeline is read as its document. -/
theorem readYaml_toAgentYaml {config : PipelineConfig} {text : String} (rendered : toAgentYaml enumerate config = some text)
    (legible : Legible config) : readYaml text = some (documentOf enumerate config) := by
  unfold toAgentYaml at rendered
  split at rendered
  next => cases rendered
  next =>
    obtain ⟨receivers, writtenReceivers, rest⟩ := Option.bind_eq_some_iff.mp rendered
    obtain ⟨processors, writtenProcessors, rest⟩ := Option.bind_eq_some_iff.mp rest
    obtain ⟨exporters, writtenExporters, rest⟩ := Option.bind_eq_some_iff.mp rest
    obtain ⟨routes, writtenRoutes, same⟩ := Option.bind_eq_some_iff.mp rest
    rw [← Option.some.inj same]
    have header : Shows 0 ["tenant: \"" ++ escape config.tenantId ++ "\"", "pipeline: \"" ++ escape config.name ++ "\"", ""]
        [(.string "tenant", .string config.tenantId), (.string "pipeline", .string config.name)] := by
      have tenant := shows_quoted (show namesItself "tenant" = true by decide) legible.tenant
      have pipeline := shows_quoted (show namesItself "pipeline" = true by decide) legible.name
      exact (tenant.append pipeline).append Writes.blank
    have sections := ((header.append (shows_named_section lawful (by decide) (by decide) (by decide) writtenReceivers
      legible.receivers)).append (shows_named_section lawful (by decide) (by decide) (by decide) writtenProcessors
      legible.processors)).append (shows_named_section lawful (by decide) (by decide) (by decide) writtenExporters
      legible.exporters)
    have whole := sections.append (shows_section (by decide) writtenRoutes legible.routes (fun _ => rfl)
      fun route lines shown named legible => shows_route shown named legible)
    exact readYaml_of_writes (by simp) whole (by rfl)

/-- The sections of the document are those of the pipeline, up to the order of their entries. -/
theorem rendered_yaml_means_pipeline {config : PipelineConfig} {text : String}
    (rendered : toAgentYaml enumerate config = some text) (legible : Legible config) :
    ∃ receivers processors exporters routes,
      readYaml text = some (.mapping [
        (.string "tenant", .string config.tenantId), (.string "pipeline", .string config.name),
        (.string "receivers", blockNode receivers), (.string "processors", blockNode processors),
        (.string "exporters", blockNode exporters), (.string "routes", blockNode routes)]) ∧
      receivers.Perm (config.receivers.map (entryNode enumerate receiverKeys)) ∧
      processors.Perm (config.processors.map (entryNode enumerate processorKeys)) ∧
      exporters.Perm (config.exporters.map (entryNode enumerate exporterKeys)) ∧
      routes.Perm (config.routes.map routeNode) := by
  have document := readYaml_toAgentYaml lawful rendered legible
  exact ⟨_, _, _, _, document, (List.mergeSort_perm _ _).map _, (List.mergeSort_perm _ _).map _,
    (List.mergeSort_perm _ _).map _, (List.mergeSort_perm _ _).map _⟩

end Text

/-! ### Other pipelines -/

def keyed (fields : List (String × String)) : Entries :=
  fields.map fun field => (.string field.1, .scalar (.string field.2))

/-- One receiver with the given name. -/
def receiving (name : String) : PipelineConfig where
  tenantId := "tenant-a"
  name := "edge"
  receivers := [keyed [("name", name), ("protocol", "otlp_grpc")]]
  processors := []
  exporters := [keyed [("name", "out"), ("protocol", "otlp")]]
  routes := [keyed [("signal", "logs")] ++ [(.string "exporters", .list [.scalar (.string "out")])]]
  version := 1

theorem legible_receiving {name : String} (itself : namesItself name = true) : Legible (receiving name) where
  tenant := show Quotable "tenant-a" by decide
  name := show Quotable "edge" by decide
  receivers := by
    refine ⟨?_, List.pairwise_singleton _ _, ?_⟩
    · intro entry member
      rw [List.mem_singleton.mp member]
      exact ⟨.string name, rfl, isKey_iff_namesItself.mpr itself⟩
    · intro entry member key listed value found
      rw [List.mem_singleton.mp member] at found
      rcases List.mem_pair.mp listed with rfl | rfl
      · cases found
        show Quotable "otlp_grpc"
        decide
      · cases found
  processors := ⟨(fun _ member => nomatch member), List.Pairwise.nil, fun _ member => nomatch member⟩
  exporters := by
    refine ⟨?_, List.pairwise_singleton _ _, ?_⟩
    · intro entry member
      rw [List.mem_singleton.mp member]
      exact ⟨.string "out", rfl, isKey_iff_namesItself.mpr (by decide)⟩
    · intro entry member key listed value found
      rw [List.mem_singleton.mp member] at found
      simp only [exporterKeys, List.mem_cons, List.not_mem_nil, or_false] at listed
      rcases listed with rfl | rfl | rfl | rfl
      · cases found
        show Quotable "otlp"
        decide
      · cases found
      · cases found
      · cases found
  routes := by
    refine ⟨?_, List.pairwise_singleton _ _, ?_⟩
    · intro route member
      rw [List.mem_singleton.mp member]
      exact ⟨.string "logs", rfl, isKey_iff_namesItself.mpr (by decide)⟩
    · intro route member exporter listed
      rw [List.mem_singleton.mp member] at listed
      rw [List.mem_singleton.mp listed]
      show Quotable "out"
      decide

theorem rendered_receiving : ∃ text receivers, toAgentYaml id (receiving "otlp-in") = some text ∧
    receivers.Perm [(Yaml.string "otlp-in", Yaml.mapping [(.string "protocol", .string "otlp_grpc")])] ∧
    (readYaml text).map (fun document => match document with
      | .mapping (_ :: _ :: (_, section_) :: _) => section_
      | _ => .null) = some (blockNode receivers) := by
  have written : (toAgentYaml id (receiving "otlp-in")).isSome = true := by decide +kernel
  obtain ⟨text, rendered⟩ := Option.isSome_iff_exists.mp written
  obtain ⟨receivers, processors, exporters, routes, read, same, -⟩ :=
    rendered_yaml_means_pipeline (fun entries => List.Perm.refl entries) rendered (legible_receiving (by decide))
  refine ⟨text, receivers, rendered, same, ?_⟩
  rw [read]
  rfl

/-- The names in a section that are strings. -/
def sectionNames (title : String) : Yaml → List String
  | .mapping sections => sections.flatMap fun
      | (.string key, .mapping entries) =>
          if key = title then entries.filterMap fun
            | (.string name, _) => some name
            | _ => none
          else []
      | _ => []
  | _ => []

/-- The lines of the text. -/
def agentLines (config : PipelineConfig) : Option (List String) :=
  match validate config with
  | .error _ => none
  | .ok () => do
      let receivers ← namedSection id "receivers" config.receivers ["protocol", "endpoint"]
      let processors ← namedSection id "processors" config.processors ["enabled"]
      let exporters ← namedSection id "exporters" config.exporters ["protocol", "endpoint", "tls", "retry"]
      let routes ← routeSection config.routes
      return ["tenant: \"" ++ escape config.tenantId ++ "\"", "pipeline: \"" ++ escape config.name ++ "\"", ""] ++
        receivers ++ processors ++ exporters ++ routes

/-- What is read from the text is read from the characters of its lines, and those are fast to compute. -/
theorem bind_readYaml (config : PipelineConfig) : (toAgentYaml id config).bind readYaml =
    (agentLines config).bind fun lines => readCharacters (['\n'].intercalate (lines.map String.toList) ++ ['\n']) := by
  have written : toAgentYaml id config = (agentLines config).map joinLines := by
    unfold toAgentYaml agentLines
    cases validate config with
    | error problem => rfl
    | ok _ => simp [Option.map_bind]
  rw [written, Option.bind_map]
  refine congrArg (agentLines config).bind ?_
  funext lines
  exact readYaml_ofList _

theorem misread_of_names {name : String} {names : List String}
    (shown : ((toAgentYaml id (receiving name)).bind readYaml).map (sectionNames "receivers") = some names)
    (other : sectionNames "receivers" (documentOf id (receiving name)) ≠ names) :
    (toAgentYaml id (receiving name)).bind readYaml ≠ some (documentOf id (receiving name)) := by
  intro same
  rw [same] at shown
  exact other (Option.some.inj shown)

/-- A name with line breaks becomes two receivers, and a name of digits a number. -/
theorem unquoted_names :
    ((validate (receiving "in:\n    protocol: \"otlp_grpc\"\n  too")).toBool = true ∧
      ((toAgentYaml id (receiving "in:\n    protocol: \"otlp_grpc\"\n  too")).bind readYaml).map
        (sectionNames "receivers") = some ["in", "too"] ∧
      (toAgentYaml id (receiving "in:\n    protocol: \"otlp_grpc\"\n  too")).bind readYaml ≠
        some (documentOf id (receiving "in:\n    protocol: \"otlp_grpc\"\n  too"))) ∧
    ((validate (receiving "1")).toBool = true ∧
      ((toAgentYaml id (receiving "1")).bind readYaml).map (sectionNames "receivers") = some [] ∧
      (toAgentYaml id (receiving "1")).bind readYaml ≠ some (documentOf id (receiving "1"))) := by
  have broken : (validate (receiving "in:\n    protocol: \"otlp_grpc\"\n  too")).toBool = true ∧
      ((toAgentYaml id (receiving "in:\n    protocol: \"otlp_grpc\"\n  too")).bind readYaml).map
        (sectionNames "receivers") = some ["in", "too"] ∧
      sectionNames "receivers" (documentOf id (receiving "in:\n    protocol: \"otlp_grpc\"\n  too")) ≠ ["in", "too"] := by
    rw [bind_readYaml]
    decide +kernel
  have digits : (validate (receiving "1")).toBool = true ∧
      ((toAgentYaml id (receiving "1")).bind readYaml).map (sectionNames "receivers") = some [] ∧
      sectionNames "receivers" (documentOf id (receiving "1")) ≠ [] := by
    rw [bind_readYaml]
    decide +kernel
  exact ⟨⟨broken.1, broken.2.1, misread_of_names broken.2.1 broken.2.2⟩,
    digits.1, digits.2.1, misread_of_names digits.2.1 digits.2.2⟩

end TelemetryFabric.ControlPlane
