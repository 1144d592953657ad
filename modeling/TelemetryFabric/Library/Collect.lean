import TelemetryFabric.Library.OrderedMap
import Mathlib.Data.List.Forall2

/-! Collecting results: a traversal that may fail succeeds with one result for each item, and a map
is built by inserting bindings one after another, the last one of a key staying. -/

namespace TelemetryFabric.Library

variable {α β ε : Type}

theorem mapM_eq_ok_iff {f : α → Except ε β} {items : List α} {results : List β} :
    items.mapM f = .ok results ↔ List.Forall₂ (fun item result => f item = .ok result) items results := by
  induction items generalizing results with
  | nil =>
    rw [List.mapM_nil, List.forall₂_nil_left_iff]
    exact ⟨fun same => (Except.ok.inj same).symm, fun same => congrArg _ same.symm⟩
  | cons item items ih =>
    rw [List.mapM_cons, List.forall₂_cons_left_iff]
    cases first : f item with
    | error error =>
      constructor
      · intro same
        cases same
      · rintro ⟨result, rest, absurd, -⟩
        cases absurd
    | ok result =>
      cases rest : items.mapM f with
      | error error =>
        constructor
        · intro same
          cases same
        · rintro ⟨other, others, -, onward, -⟩
          rw [ih.mpr onward] at rest
          cases rest
      | ok others =>
        constructor
        · intro same
          cases same
          exact ⟨result, others, rfl, ih.mp rest, rfl⟩
        · rintro ⟨other, more, same, onward, rfl⟩
          cases same
          rw [ih.mpr onward] at rest
          cases rest
          rfl

theorem mapM_eq_ok_of_forall {f : α → Except ε β} {g : α → β} {items : List α} (each : ∀ item ∈ items, f item = .ok (g item)) :
    items.mapM f = .ok (items.map g) := by
  apply mapM_eq_ok_iff.mpr
  rw [List.forall₂_map_right_iff, List.forall₂_same]
  exact each

/-- A traversal fails as one of its items does. -/
theorem exists_of_mapM_eq_error {f : α → Except ε β} {items : List α} {error : ε} (failed : items.mapM f = .error error) :
    ∃ item ∈ items, f item = .error error := by
  induction items with
  | nil => cases failed
  | cons item items ih =>
    rw [List.mapM_cons] at failed
    cases first : f item with
    | error other =>
      rw [first] at failed
      cases failed
      exact ⟨item, List.mem_cons_self, first⟩
    | ok result =>
      rw [first] at failed
      cases rest : items.mapM f with
      | ok others =>
        rw [rest] at failed
        cases failed
      | error other =>
        rw [rest] at failed
        cases failed
        obtain ⟨later, member, same⟩ := ih rest
        exact ⟨later, List.mem_cons_of_mem item member, same⟩

theorem mapM_eq_some_iff {f : α → Option β} {items : List α} {results : List β} :
    items.mapM f = some results ↔ List.Forall₂ (fun item result => f item = some result) items results := by
  induction items generalizing results with
  | nil =>
    rw [List.mapM_nil, List.forall₂_nil_left_iff]
    exact ⟨fun same => (Option.some.inj same).symm, fun same => congrArg _ same.symm⟩
  | cons item items ih =>
    rw [List.mapM_cons, List.forall₂_cons_left_iff, Option.bind_eq_bind, Option.bind_eq_some_iff]
    constructor
    · rintro ⟨result, first, onward⟩
      obtain ⟨others, rest, same⟩ := Option.bind_eq_some_iff.mp onward
      cases same
      exact ⟨result, others, first, ih.mp rest, rfl⟩
    · rintro ⟨result, others, first, rest, rfl⟩
      exact ⟨result, first, Option.bind_eq_some_iff.mpr ⟨others, ih.mpr rest, rfl⟩⟩

/-- All items have results if each has one. -/
theorem exists_forall₂_iff {relation : α → β → Prop} {items : List α} :
    (∃ results, List.Forall₂ relation items results) ↔ ∀ item ∈ items, ∃ result, relation item result := by
  induction items with
  | nil => exact ⟨(fun _ _ member => nomatch member), fun _ => ⟨[], .nil⟩⟩
  | cons item items ih =>
    rw [List.forall_mem_cons, ← ih]
    constructor
    · rintro ⟨results, all⟩
      obtain ⟨result, rest, first, onward, -⟩ := List.forall₂_cons_left_iff.mp all
      exact ⟨⟨result, first⟩, rest, onward⟩
    · rintro ⟨⟨result, first⟩, rest, onward⟩
      exact ⟨result :: rest, .cons first onward⟩

theorem exists_left_of_forall₂ {relation : α → β → Prop} {items : List α} {results : List β}
    (all : List.Forall₂ relation items results) {result : β} (member : result ∈ results) :
    ∃ item ∈ items, relation item result := by
  induction all with
  | nil => cases member
  | cons first rest ih =>
    rcases List.mem_cons.mp member with rfl | later
    · exact ⟨_, List.mem_cons_self, first⟩
    · obtain ⟨item, inside, holds⟩ := ih later
      exact ⟨item, List.mem_cons_of_mem _ inside, holds⟩

theorem exists_right_of_forall₂ {relation : α → β → Prop} {items : List α} {results : List β}
    (all : List.Forall₂ relation items results) {item : α} (member : item ∈ items) :
    ∃ result ∈ results, relation item result :=
  exists_left_of_forall₂ all.flip member

theorem map_eq_map_of_forall₂ {γ : Type} {relation : α → β → Prop} {items : List α} {results : List β} {f : α → γ}
    {g : β → γ} (all : List.Forall₂ relation items results) (same : ∀ item result, relation item result → f item = g result) :
    items.map f = results.map g := by
  induction all with
  | nil => rfl
  | cons first rest ih => rw [List.map_cons, List.map_cons, same _ _ first, ih]

namespace OrderedMap

variable {κ ν μ : Type} [LinearOrder κ]

def insertAll (map : OrderedMap κ ν) (bindings : List (κ × ν)) : OrderedMap κ ν :=
  bindings.foldl (fun map binding => map.insert binding.1 binding.2) map

def ofList (bindings : List (κ × ν)) : OrderedMap κ ν := insertAll .empty bindings

theorem mem_keys_insertAll {map : OrderedMap κ ν} {bindings : List (κ × ν)} {key : κ} :
    key ∈ (map.insertAll bindings).keys ↔ key ∈ map.keys ∨ ∃ binding ∈ bindings, binding.1 = key := by
  induction bindings generalizing map with
  | nil => simp [insertAll]
  | cons binding bindings ih =>
    have onward : key ∈ ((map.insert binding.1 binding.2).insertAll bindings).keys ↔ _ := ih
    rw [mem_keys_insert] at onward
    change key ∈ ((map.insert binding.1 binding.2).insertAll bindings).keys ↔ _
    rw [onward, List.exists_mem_cons_iff, eq_comm (a := key)]
    tauto

theorem mem_keys_ofList {bindings : List (κ × ν)} {key : κ} :
    key ∈ (ofList bindings).keys ↔ ∃ binding ∈ bindings, binding.1 = key := by
  unfold ofList
  rw [mem_keys_insertAll]
  simp [keys, empty]

theorem mem_insertAll {map : OrderedMap κ ν} {bindings : List (κ × ν)} {binding : κ × ν}
    (member : binding ∈ (map.insertAll bindings).entries) : binding ∈ map.entries ∨ binding ∈ bindings := by
  induction bindings generalizing map with
  | nil => exact .inl member
  | cons first rest ih =>
    rcases ih member with old | later
    · rcases mem_place old with rfl | older
      · exact .inr List.mem_cons_self
      · exact .inl older
    · exact .inr (List.mem_cons_of_mem _ later)

theorem mem_ofList {bindings : List (κ × ν)} {binding : κ × ν} (member : binding ∈ (ofList bindings).entries) :
    binding ∈ bindings := by
  rcases mem_insertAll member with nothing | listed
  · cases nothing
  · exact listed

/-- The same keys, with related values. -/
def Related (relation : ν → μ → Prop) (first : OrderedMap κ ν) (second : OrderedMap κ μ) : Prop :=
  ∀ key, Option.Rel relation (first.find? key) (second.find? key)

theorem Related.insertAll {relation : ν → μ → Prop} {first : OrderedMap κ ν} {second : OrderedMap κ μ}
    {bindings : List (κ × ν)} {others : List (κ × μ)} (related : Related relation first second)
    (each : List.Forall₂ (fun binding other => binding.1 = other.1 ∧ relation binding.2 other.2) bindings others) :
    Related relation (first.insertAll bindings) (second.insertAll others) := by
  induction each generalizing first second with
  | nil => exact related
  | cons same rest ih =>
    apply ih
    intro key
    rw [find?_insert, find?_insert, same.1]
    split_ifs
    · exact .some same.2
    · exact related key

theorem Related.mem_right {relation : ν → μ → Prop} {first : OrderedMap κ ν} {second : OrderedMap κ μ}
    (related : Related relation first second) {key : κ} {value : μ} (member : (key, value) ∈ second.entries) :
    ∃ other, (key, other) ∈ first.entries ∧ relation other value := by
  have found := (second.find?_eq_some_iff key value).mpr member
  have both := related key
  rw [found] at both
  cases here : first.find? key with
  | none =>
    rw [here] at both
    cases both
  | some other =>
    rw [here] at both
    cases both with
    | some holds => exact ⟨other, (first.find?_eq_some_iff key other).mp here, holds⟩

theorem Related.swap {relation : ν → μ → Prop} {first : OrderedMap κ ν} {second : OrderedMap κ μ}
    (related : Related relation first second) : Related (fun value other => relation other value) second first := by
  intro key
  have both := related key
  revert both
  generalize first.find? key = one
  generalize second.find? key = two
  rintro (holds | _)
  · exact .some holds
  · exact .none

theorem Related.mem_left {relation : ν → μ → Prop} {first : OrderedMap κ ν} {second : OrderedMap κ μ}
    (related : Related relation first second) {key : κ} {value : ν} (member : (key, value) ∈ first.entries) :
    ∃ other, (key, other) ∈ second.entries ∧ relation value other :=
  related.swap.mem_right member

theorem Related.mem_keys {relation : ν → μ → Prop} {first : OrderedMap κ ν} {second : OrderedMap κ μ}
    (related : Related relation first second) {key : κ} : key ∈ second.keys ↔ key ∈ first.keys := by
  unfold keys
  rw [List.mem_map, List.mem_map]
  constructor
  · rintro ⟨⟨_, value⟩, member, rfl⟩
    obtain ⟨other, listed, -⟩ := related.mem_right member
    exact ⟨(_, other), listed, rfl⟩
  · rintro ⟨⟨_, value⟩, member, rfl⟩
    obtain ⟨other, listed, -⟩ := related.mem_left member
    exact ⟨(_, other), listed, rfl⟩

/-- A property of all bindings of a map whose values are results. -/
theorem Related.forall_iff {f : ν → Option μ} {first : OrderedMap κ ν} {second : OrderedMap κ μ}
    (related : Related (fun value result => f value = some result) first second) {P : κ → μ → Prop} :
    (∀ binding ∈ second.entries, P binding.1 binding.2) ↔
      ∀ binding ∈ first.entries, ∀ result ∈ f binding.2, P binding.1 result := by
  constructor
  · intro all binding member result found
    obtain ⟨other, listed, same⟩ := related.mem_left member
    rw [found] at same
    cases same
    exact all _ listed
  · intro all binding member
    obtain ⟨other, listed, same⟩ := related.mem_right member
    exact all _ listed binding.2 same

end OrderedMap

end TelemetryFabric.Library
