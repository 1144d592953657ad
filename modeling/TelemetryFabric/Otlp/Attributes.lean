import TelemetryFabric.Otlp.Forward
import TelemetryFabric.Otlp.Receive
import Mathlib.Data.List.Forall2

/-!
The attribute list between a receiver and an exporter: what is pushed where, what the first
match for a key is, and how the three kinds of keys are told apart.
-/

namespace TelemetryFabric.Otlp
open Library TelemetryFabric.Core

/-! ### Pushing -/

/-- The attributes a list of pairs is pushed as. -/
def pushed (pairs : List (String × String)) : List Attribute := pairs.map fun pair => ⟨pair.1, pair.2⟩

theorem pushAll_eq (record : TelemetryRecord) (pairs : List (String × String)) :
    pushAll record pairs = { record with attributes := record.attributes ++ pushed pairs } := by
  induction pairs generalizing record with
  | nil => simp [pushAll, pushed]
  | cons pair rest ih =>
    change pushAll (record.withAttribute pair.1 pair.2) rest = _
    rw [ih]
    simp [pushed, TelemetryRecord.withAttribute]

theorem pushWhen_eq (condition : Bool) (record : TelemetryRecord) (key value : String) :
    pushWhen condition record key value =
      { record with attributes := record.attributes ++ if condition then [⟨key, value⟩] else [] } := by
  cases condition <;> simp [pushWhen, TelemetryRecord.withAttribute]

theorem pushOption_eq (record : TelemetryRecord) (key : String) (value : Option String) :
    pushOption record key value =
      { record with attributes := record.attributes ++ (value.map fun text => ⟨key, text⟩).toList } := by
  cases value <;> simp [pushOption, TelemetryRecord.withAttribute]

/-! ### Keys -/

theorem startsWith_append (start text : String) : startsWith (start ++ text) start = true := by
  simp [startsWith]

theorem stripStart_append (start text : String) : stripStart start (start ++ text) = some text := by
  rw [stripStart, if_pos (startsWith_append start text)]
  simp

theorem stripStart_of_not {start text : String} (other : startsWith text start = false) :
    stripStart start text = none := by
  rw [stripStart, if_neg (by simp [other])]

/-- Two starts of the same length that differ do not begin the same text. -/
theorem startsWith_exclusive {text first second : String} (begins : startsWith text first = true)
    (apart : first.toList.isPrefixOf second.toList = false)
    (apart' : second.toList.isPrefixOf first.toList = false) : startsWith text second = false := by
  by_contra both
  have firstThere : first.toList <+: text.toList := List.isPrefixOf_iff_prefix.mp begins
  have secondThere : second.toList <+: text.toList := List.isPrefixOf_iff_prefix.mp (by simpa [startsWith] using both)
  rcases List.prefix_or_prefix_of_prefix firstThere secondThere with nested | nested
  · rw [List.isPrefixOf_iff_prefix.mpr nested] at apart
    cases apart
  · rw [List.isPrefixOf_iff_prefix.mpr nested] at apart'
    cases apart'

theorem not_otel_of_resource {key : String} (resource : startsWith key "resource." = true) :
    startsWith key "otel." = false :=
  startsWith_exclusive resource (by decide) (by decide)

theorem not_resource_of_otel {key : String} (otel : startsWith key "otel." = true) :
    startsWith key "resource." = false :=
  startsWith_exclusive otel (by decide) (by decide)

/-! ### Finding -/

/-- The value of the first attribute with a key. -/
def lookup (attributes : List Attribute) (key : String) : Option String :=
  (attributes.find? (fun entry => entry.key == key)).map Attribute.value

theorem findAttribute_eq (record : TelemetryRecord) (key : String) :
    findAttribute record key = lookup record.attributes key := rfl

@[simp] theorem lookup_nil (key : String) : lookup [] key = none := rfl

@[simp] theorem lookup_cons (key value wanted : String) (rest : List Attribute) :
    lookup (⟨key, value⟩ :: rest) wanted = if key = wanted then some value else lookup rest wanted := by
  unfold lookup
  rw [List.find?_cons]
  by_cases same : key = wanted
  · simp [same]
  · have differs : (key == wanted) = false := by simpa using same
    simp [differs, same]

@[simp] theorem lookup_append (first second : List Attribute) (key : String) :
    lookup (first ++ second) key = (lookup first key).or (lookup second key) := by
  simp [lookup, List.find?_append, Option.map_or]

@[simp] theorem lookup_ite (condition : Prop) [Decidable condition] (first second : List Attribute) (key : String) :
    lookup (if condition then first else second) key =
      if condition then lookup first key else lookup second key :=
  apply_ite (lookup · key) condition first second

/-! ### The attributes of the sender -/

/-- An attribute as the exporters write it back. -/
def rendered (doubles : DoubleText) (value : KeyValue) : KeyValue :=
  .ofString value.key (optionToString doubles value.value)

/-- The attributes the receivers keep. -/
def nonBlank (values : List KeyValue) : List KeyValue := values.filter fun value => !isBlank value.key

theorem pushed_own (doubles : DoubleText) (values : List KeyValue) :
    pushed (attributesFromKeyValues doubles "" values) =
      (nonBlank values).map fun value => ⟨value.key, optionToString doubles value.value⟩ := by
  simp [pushed, attributesFromKeyValues, nonBlank]

theorem pushed_resource (doubles : DoubleText) (resource : Option Resource) :
    pushed (resourceAttributes doubles resource) =
      (nonBlank ((resource.map Resource.attributes).getD [])).map fun value =>
        ⟨"resource." ++ value.key, optionToString doubles value.value⟩ := by
  cases resource with
  | none => rfl
  | some resource => simp [pushed, resourceAttributes, attributesFromKeyValues, nonBlank]

theorem stripStart_resource (key : String) : stripStart "resource." ("resource." ++ key) = some key :=
  stripStart_append "resource." key

/-- Behind fields of the message, the resource's attributes come first again. -/
theorem resourceAttributes_back (doubles : DoubleText) (record : TelemetryRecord) (fields : List Attribute)
    (resource : Option Resource) (own : List Attribute)
    (listed : record.attributes = fields ++ (pushed (resourceAttributes doubles resource) ++ own))
    (otel : ∀ entry ∈ fields, startsWith entry.key "otel." = true) :
    ∃ more, recordToResourceAttributes record =
      (nonBlank ((resource.map Resource.attributes).getD [])).map (rendered doubles) ++ more := by
  have none : fields.filterMap (fun entry =>
      ((stripStart "resource." entry.key).filter fun key => !isBlank key).map fun key =>
        KeyValue.ofString key entry.value) = [] := by
    rw [List.filterMap_eq_nil_iff]
    intro entry member
    rw [stripStart_of_not (not_resource_of_otel (otel entry member))]
    rfl
  have back : ((nonBlank ((resource.map Resource.attributes).getD [])).map fun value =>
      (⟨"resource." ++ value.key, optionToString doubles value.value⟩ : Attribute)).filterMap (fun entry =>
        ((stripStart "resource." entry.key).filter fun key => !isBlank key).map fun key =>
          KeyValue.ofString key entry.value) =
      (nonBlank ((resource.map Resource.attributes).getD [])).map (rendered doubles) := by
    rw [List.filterMap_map, ← List.filterMap_eq_map]
    apply List.filterMap_congr
    intro value member
    have kept : isBlank value.key = false := by simpa using (List.mem_filter.mp member).2
    simp [stripStart_resource, kept, rendered]
  unfold recordToResourceAttributes
  rw [listed, List.filterMap_append, List.filterMap_append, none, pushed_resource, back, List.nil_append]
  exact ⟨_, rfl⟩

/-- Of the attributes behind the resource's, those with other keys are the sender's again. -/
theorem ownAttributes_back (doubles : DoubleText) (record : TelemetryRecord) (fields : List Attribute)
    (resource : Option Resource) (own : List KeyValue)
    (listed : record.attributes = fields ++ (pushed (resourceAttributes doubles resource) ++
      pushed (attributesFromKeyValues doubles "" own)))
    (otel : ∀ entry ∈ fields, startsWith entry.key "otel." = true) :
    ownAttributes record = ((nonBlank own).filter fun value =>
      !startsWith value.key "otel." && !startsWith value.key "resource.").map (rendered doubles) := by
  have none : fields.filter (fun entry =>
      !startsWith entry.key "otel." && !startsWith entry.key "resource.") = [] := by
    rw [List.filter_eq_nil_iff]
    intro entry member
    simp [otel entry member]
  have others : ((nonBlank ((resource.map Resource.attributes).getD [])).map fun value =>
      (⟨"resource." ++ value.key, optionToString doubles value.value⟩ : Attribute)).filter (fun entry =>
        !startsWith entry.key "otel." && !startsWith entry.key "resource.") = [] := by
    rw [List.filter_eq_nil_iff]
    intro entry member
    obtain ⟨value, -, rfl⟩ := List.mem_map.mp member
    simp [startsWith_append]
  unfold ownAttributes
  rw [listed, List.filter_append, List.filter_append, none, pushed_resource, others, pushed_own,
    List.filter_map, List.nil_append, List.nil_append, List.map_map]
  rfl

/-! ### Requests -/

theorem mem_stamp {clock : Nat → BitVec 128} {makes : List Unstamped} {record : TelemetryRecord}
    (member : record ∈ stamp clock makes) : ∃ make ∈ makes, ∃ now, record = make now := by
  obtain ⟨index, inside, same⟩ := List.mem_iff_getElem.mp member
  simp only [stamp, List.getElem_mapIdx] at same
  exact ⟨_, List.getElem_mem _, _, same.symm⟩

/-- Each record is made from one entry of the request, in order, so what holds of an entry and
its record at every time decides the whole request. -/
theorem forall₂_stamp_iff {α : Type} {relation : α → TelemetryRecord → Prop} {condition : α → Prop}
    (clock : Nat → BitVec 128) (entries : List α) (make : α → Unstamped)
    (related : ∀ entry ∈ entries, ∀ now, relation entry (make entry now) ↔ condition entry) :
    List.Forall₂ relation entries (stamp clock (entries.map make)) ↔ ∀ entry ∈ entries, condition entry := by
  unfold stamp
  induction entries generalizing clock with
  | nil => simp
  | cons entry rest ih =>
    have later := ih (fun index => clock (index + 1)) fun other member => related other (List.mem_cons_of_mem _ member)
    rw [List.map_cons, List.mapIdx_cons, List.forall₂_cons, List.forall_mem_cons,
      related entry List.mem_cons_self (clock 0)]
    exact and_congr_right fun _ => later

theorem forall₂_stamp {α : Type} {relation : α → TelemetryRecord → Prop} (clock : Nat → BitVec 128)
    (entries : List α) (make : α → Unstamped)
    (related : ∀ entry ∈ entries, ∀ now, relation entry (make entry now)) :
    List.Forall₂ relation entries (stamp clock (entries.map make)) := by
  have always : ∀ entry ∈ entries, ∀ now, relation entry (make entry now) ↔ True :=
    fun entry member now => iff_true_intro (related entry member now)
  exact (forall₂_stamp_iff clock entries make always).mpr fun _ _ => trivial

end TelemetryFabric.Otlp
