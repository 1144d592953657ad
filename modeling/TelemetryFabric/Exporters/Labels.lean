import TelemetryFabric.Library.Ascii
import TelemetryFabric.Library.OrderedMap
import TelemetryFabric.Otlp.Forward

/-!
The labels of a remote-write series. Attribute keys are made identifiers character by character;
the name of the metric and the tenant come first, an attribute only takes a name that is still
free, and the labels of the builder replace what is there.
-/

namespace TelemetryFabric.Exporters
open Library TelemetryFabric.Core Otlp

structure PromLabel where
  name : String
  value : String
  deriving DecidableEq, Repr

/-! ### Identifiers -/

def sanitizeFrom (allowColon : Bool) : Nat → List Char → List Char
  | _, [] => []
  | index, original :: rest =>
      let valid := original == '_' || (allowColon && original == ':') || original.isAlphanum
      let character := if valid then original else '_'
      let start := if index == 0 && character.isDigit then ['_'] else []
      let character := if !allowColon && character == ':' then '_' else character
      start ++ character :: sanitizeFrom allowColon (index + 1) rest

def sanitizePrometheusIdentifier (value : String) (allowColon : Bool) : String :=
  let output := sanitizeFrom allowColon 0 value.toList
  if output.isEmpty then "_" else String.ofList output

def sanitizePrometheusMetricName (value : String) : String := sanitizePrometheusIdentifier value true

def sanitizePrometheusLabelName (value : String) : String := sanitizePrometheusIdentifier value false

/-- `[a-zA-Z0-9_]`, or with the colon. -/
def wordCharacter (allowColon : Bool) (c : Char) : Bool := c == '_' || (allowColon && c == ':') || c.isAlphanum

/-- `[a-zA-Z_][a-zA-Z0-9_]*`, or with colons. -/
def Identifier (allowColon : Bool) (text : String) : Prop :=
  ∃ first rest, text.toList = first :: rest ∧ wordCharacter allowColon first = true ∧ first.isDigit = false ∧
    ∀ c ∈ rest, wordCharacter allowColon c = true

/-- A character that may stand in an identifier, and an underscore for any other. -/
def wordOr (allowColon : Bool) (c : Char) : Char := if wordCharacter allowColon c then c else '_'

theorem wordCharacter_wordOr (allowColon : Bool) (c : Char) : wordCharacter allowColon (wordOr allowColon c) = true := by
  unfold wordOr
  split_ifs with word
  · exact word
  · cases allowColon <;> rfl

theorem wordOr_of_word {allowColon : Bool} {c : Char} (word : wordCharacter allowColon c = true) :
    wordOr allowColon c = c := if_pos word

/-- Where a colon is not allowed, none is left to replace. -/
theorem sanitized_colon (allowColon : Bool) (c : Char) :
    (if !allowColon && wordOr allowColon c == ':' then '_' else wordOr allowColon c) = wordOr allowColon c := by
  have word := wordCharacter_wordOr allowColon c
  generalize wordOr allowColon c = character at word
  cases allowColon with
  | true => rfl
  | false =>
    have other : character ≠ ':' := by
      intro colon
      rw [colon] at word
      cases word
    rw [if_neg]
    simpa using other

theorem sanitizeFrom_later (allowColon : Bool) (index : Nat) (characters : List Char) :
    sanitizeFrom allowColon (index + 1) characters = characters.map (wordOr allowColon) := by
  induction characters generalizing index with
  | nil => rfl
  | cons c rest ih =>
    rw [sanitizeFrom, ih]
    exact congrArg (· :: rest.map (wordOr allowColon)) (sanitized_colon allowColon c)

theorem sanitizeFrom_cons (allowColon : Bool) (c : Char) (rest : List Char) :
    sanitizeFrom allowColon 0 (c :: rest) =
      (if (wordOr allowColon c).isDigit then ['_'] else []) ++ wordOr allowColon c :: rest.map (wordOr allowColon) := by
  rw [sanitizeFrom, sanitizeFrom_later]
  have colon := sanitized_colon allowColon c
  unfold wordOr wordCharacter at colon ⊢
  simp only [beq_self_eq_true, Bool.true_and, colon]

theorem identifier_sanitize (value : String) (allowColon : Bool) :
    Identifier allowColon (sanitizePrometheusIdentifier value allowColon) := by
  have under : wordCharacter allowColon '_' = true := by cases allowColon <;> rfl
  have rests : ∀ characters : List Char, ∀ c ∈ characters.map (wordOr allowColon), wordCharacter allowColon c = true := by
    intro characters c member
    obtain ⟨original, -, rfl⟩ := List.mem_map.mp member
    exact wordCharacter_wordOr allowColon original
  unfold sanitizePrometheusIdentifier
  cases characters : value.toList with
  | nil => exact ⟨'_', [], by simp [sanitizeFrom], under, rfl, by simp⟩
  | cons c rest =>
    rw [sanitizeFrom_cons]
    by_cases digit : (wordOr allowColon c).isDigit = true
    · rw [if_pos digit]
      exact ⟨'_', wordOr allowColon c :: rest.map (wordOr allowColon), String.toList_ofList, under, rfl, rests (c :: rest)⟩
    · rw [if_neg digit]
      exact ⟨wordOr allowColon c, rest.map (wordOr allowColon), String.toList_ofList, wordCharacter_wordOr allowColon c,
        Bool.eq_false_iff.mpr digit, rests rest⟩

/-- An identifier is left as it is. -/
theorem sanitize_of_identifier {text : String} {allowColon : Bool} (identifier : Identifier allowColon text) :
    sanitizePrometheusIdentifier text allowColon = text := by
  obtain ⟨first, rest, shape, word, letter, words⟩ := identifier
  have same : rest.map (wordOr allowColon) = rest.map id :=
    List.map_congr_left fun c member => wordOr_of_word (words c member)
  unfold sanitizePrometheusIdentifier
  rw [shape, sanitizeFrom_cons, wordOr_of_word word, if_neg (Bool.eq_false_iff.mp letter), same, List.map_id,
    List.nil_append]
  change String.ofList (first :: rest) = text
  rw [← shape, String.ofList_toList]

theorem sanitize_again (value : String) (allowColon : Bool) :
    sanitizePrometheusIdentifier (sanitizePrometheusIdentifier value allowColon) allowColon =
      sanitizePrometheusIdentifier value allowColon := sanitize_of_identifier (identifier_sanitize value allowColon)

theorem isAscii_of_word {allowColon : Bool} {c : Char} (word : wordCharacter allowColon c = true) : isAscii c = true := by
  have alphanumeric : c.isAlphanum = true → c.toNat < 128 := by
    intro letter
    simp only [Char.isAlphanum, isAlpha_iff, isUpper_iff, isLower_iff, Char.isDigit, Bool.or_eq_true, Bool.and_eq_true,
      decide_eq_true_eq, UInt32.le_iff_toNat_le, ge_iff_le] at letter
    rcases letter with (upper | lower) | digit
    · have := upper.2
      simp at this
      omega
    · have := lower.2
      simp at this
      omega
    · have := digit.2
      simp at this
      omega
  simp only [wordCharacter, Bool.or_eq_true, Bool.and_eq_true, beq_iff_eq] at word
  rcases word with (under | colon) | letter
  · rw [under]
    rfl
  · rw [colon.2]
    rfl
  · exact decide_eq_true (alphanumeric letter)

theorem Identifier.isAscii {allowColon : Bool} {text : String} (identifier : Identifier allowColon text) :
    ∀ c ∈ text.toList, isAscii c = true := by
  obtain ⟨first, rest, shape, word, -, words⟩ := identifier
  rw [shape]
  intro c member
  rcases List.mem_cons.mp member with rfl | later
  · exact isAscii_of_word word
  · exact isAscii_of_word (words c later)

theorem Identifier.append {allowColon : Bool} {text suffix : String} (identifier : Identifier allowColon text)
    (words : ∀ c ∈ suffix.toList, wordCharacter allowColon c = true) : Identifier allowColon (text ++ suffix) := by
  obtain ⟨first, rest, shape, word, letter, others⟩ := identifier
  refine ⟨first, rest ++ suffix.toList, ?_, word, letter, ?_⟩
  · rw [String.toList_append, shape]
    rfl
  · intro c member
    rcases List.mem_append.mp member with own | added
    · exact others c own
    · exact words c added

/-! ### Label sets -/

/-- `entry(name).or_insert(value)`. -/
def orInsert (labels : OrderedMap String String) (name value : String) : OrderedMap String String :=
  match labels.find? name with
  | some _ => labels
  | none => labels.insert name value

def attributeLabel (labels : OrderedMap String String) (entry : Attribute) : OrderedMap String String :=
  if startsWith entry.key "otel." then labels
  else
    let labelName := sanitizePrometheusLabelName entry.key
    if labelName = "__name__" ∨ labelName = "" then labels else orInsert labels labelName entry.value

def labelMap (record : TelemetryRecord) (metricName : String) (extraLabels : List (String × String)) :
    OrderedMap String String :=
  let labels := (OrderedMap.empty.insert "__name__" metricName).insert "tenant_id" record.tenantId
  let labels := record.attributes.foldl attributeLabel labels
  extraLabels.foldl (fun labels extra => labels.insert extra.1 extra.2) labels

def prometheusLabelsWithExtra (record : TelemetryRecord) (metricName : String) (extraLabels : List (String × String)) :
    List PromLabel :=
  (labelMap record metricName extraLabels).entries.map fun entry => ⟨entry.1, entry.2⟩

def prometheusLabels (record : TelemetryRecord) (metricName : String) : List PromLabel :=
  prometheusLabelsWithExtra record metricName []

/-- The name of the metric and the tenant are in their places, and every name is an identifier. -/
structure Labelled (metricName tenantId : String) (labels : OrderedMap String String) : Prop where
  metric : labels.find? "__name__" = some metricName
  tenant : labels.find? "tenant_id" = some tenantId
  identifiers : ∀ name ∈ labels.keys, Identifier false name

namespace Labelled

variable {metricName tenantId : String} {labels : OrderedMap String String}

theorem insert (labelled : Labelled metricName tenantId labels) {name : String} (value : String)
    (identifier : Identifier false name) (notMetric : name ≠ "__name__") (notTenant : name ≠ "tenant_id") :
    Labelled metricName tenantId (labels.insert name value) := by
  constructor
  · rw [OrderedMap.find?_insert, if_neg (Ne.symm notMetric)]
    exact labelled.metric
  · rw [OrderedMap.find?_insert, if_neg (Ne.symm notTenant)]
    exact labelled.tenant
  · intro other member
    rcases (OrderedMap.mem_keys_insert _ _ _ _).mp member with rfl | old
    · exact identifier
    · exact labelled.identifiers other old

theorem attributeLabel (labelled : Labelled metricName tenantId labels) (entry : Attribute) :
    Labelled metricName tenantId (attributeLabel labels entry) := by
  unfold Exporters.attributeLabel
  by_cases otel : startsWith entry.key "otel." = true
  · rw [if_pos otel]
    exact labelled
  · rw [if_neg otel]
    by_cases reserved : sanitizePrometheusLabelName entry.key = "__name__" ∨ sanitizePrometheusLabelName entry.key = ""
    · simp only [if_pos reserved]
      exact labelled
    · simp only [if_neg reserved, orInsert]
      cases taken : labels.find? (sanitizePrometheusLabelName entry.key) with
      | some value => exact labelled
      | none =>
        -- a free name is not the tenant's, which is taken
        have notTenant : sanitizePrometheusLabelName entry.key ≠ "tenant_id" := by
          intro same
          rw [same, labelled.tenant] at taken
          cases taken
        exact labelled.insert entry.value (identifier_sanitize entry.key false) (fun same => reserved (.inl same)) notTenant

theorem attributeLabels (labelled : Labelled metricName tenantId labels) (attributes : List Attribute) :
    Labelled metricName tenantId (attributes.foldl Exporters.attributeLabel labels) := by
  induction attributes generalizing labels with
  | nil => exact labelled
  | cons entry rest ih => exact ih (labelled.attributeLabel entry)

theorem extraLabels (labelled : Labelled metricName tenantId labels) {extras : List (String × String)}
    (allowed : ∀ extra ∈ extras, Identifier false extra.1 ∧ extra.1 ≠ "__name__" ∧ extra.1 ≠ "tenant_id") :
    Labelled metricName tenantId (extras.foldl (fun labels extra => labels.insert extra.1 extra.2) labels) := by
  induction extras generalizing labels with
  | nil => exact labelled
  | cons extra rest ih =>
    obtain ⟨identifier, notMetric, notTenant⟩ := allowed extra (by simp)
    exact ih (labelled.insert extra.2 identifier notMetric notTenant)
      fun other member => allowed other (List.mem_cons_of_mem _ member)

end Labelled

theorem labelled_start (metricName tenantId : String) :
    Labelled metricName tenantId ((OrderedMap.empty.insert "__name__" metricName).insert "tenant_id" tenantId) := by
  constructor
  · rw [OrderedMap.find?_insert, if_neg (by decide), OrderedMap.find?_insert_self]
  · rw [OrderedMap.find?_insert_self]
  · intro name member
    rcases (OrderedMap.mem_keys_insert _ _ _ _).mp member with rfl | other
    · exact ⟨'t', "enant_id".toList, rfl, rfl, rfl, List.all_eq_true.mp (by decide)⟩
    · rcases (OrderedMap.mem_keys_insert _ _ _ _).mp other with rfl | absent
      · exact ⟨'_', "_name__".toList, rfl, rfl, rfl, List.all_eq_true.mp (by decide)⟩
      · exact nomatch absent

theorem labelled_labelMap (record : TelemetryRecord) (metricName : String) {extraLabels : List (String × String)}
    (extras : ∀ extra ∈ extraLabels, Identifier false extra.1 ∧ extra.1 ≠ "__name__" ∧ extra.1 ≠ "tenant_id") :
    Labelled metricName record.tenantId (labelMap record metricName extraLabels) :=
  ((labelled_start metricName record.tenantId).attributeLabels record.attributes).extraLabels extras

/-- What the label set of a record's series has to be. -/
structure ValidLabels (record : TelemetryRecord) (labels : List PromLabel) : Prop where
  increasing : labels.Pairwise fun first second => utf8 first.name < utf8 second.name
  distinct : (labels.map PromLabel.name).Nodup
  identifiers : ∀ label ∈ labels, Identifier false label.name
  metric : ∃ name, ⟨"__name__", name⟩ ∈ labels ∧ Identifier true name
  tenant : ⟨"tenant_id", record.tenantId⟩ ∈ labels

theorem mem_labels {labels : OrderedMap String String} {name value : String} (found : labels.find? name = some value) :
    (⟨name, value⟩ : PromLabel) ∈ labels.entries.map fun entry => ⟨entry.1, entry.2⟩ :=
  List.mem_map.mpr ⟨(name, value), (labels.find?_eq_some_iff name value).mp found, rfl⟩

theorem validLabels_of_labelled {record : TelemetryRecord} {metricName : String} {labels : OrderedMap String String}
    (labelled : Labelled metricName record.tenantId labels) (identifier : Identifier true metricName) :
    ValidLabels record (labels.entries.map fun entry => ⟨entry.1, entry.2⟩) := by
  have names : ∀ entry ∈ labels.entries, Identifier false entry.1 := by
    intro entry member
    exact labelled.identifiers entry.1 (List.mem_map_of_mem member)
  constructor
  · rw [List.pairwise_map]
    apply labels.ordered.imp_of_mem
    intro first second firstIn secondIn before
    exact utf8_lt_of_lt (names first firstIn).isAscii (names second secondIn).isAscii before
  · rw [List.map_map]
    apply List.pairwise_map.mpr
    apply labels.ordered.imp
    intro first second before same
    have equal : first.1 = second.1 := same
    rw [equal] at before
    exact lt_irrefl _ before
  · intro label member
    obtain ⟨entry, inside, rfl⟩ := List.mem_map.mp member
    exact names entry inside
  · exact ⟨metricName, mem_labels labelled.metric, identifier⟩
  · exact mem_labels labelled.tenant

/-- The label a series is built with is in it, whatever the attributes are called. -/
theorem find?_labelMap_extra (record : TelemetryRecord) (metricName name value : String) :
    (labelMap record metricName [(name, value)]).find? name = some value := OrderedMap.find?_insert_self _ _ _

theorem find?_labelMap_metric (record : TelemetryRecord) (metricName : String) {extraLabels : List (String × String)}
    (extras : ∀ extra ∈ extraLabels, Identifier false extra.1 ∧ extra.1 ≠ "__name__" ∧ extra.1 ≠ "tenant_id") :
    (labelMap record metricName extraLabels).find? "__name__" = some metricName :=
  (labelled_labelMap record metricName extras).metric

end TelemetryFabric.Exporters
