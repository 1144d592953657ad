import Mathlib.Data.List.Basic
import Mathlib.Logic.ExistsUnique
import Mathlib.Order.Nat

/-! Folds that keep things apart: a step that loses nothing of the state carries any difference to
the end, and one that loses nothing of the item makes a difference where the items differ. -/

namespace TelemetryFabric.Library

variable {σ α : Type}

theorem foldl_injective {step : σ → α → σ} (carries : ∀ item, Function.Injective fun state => step state item)
    (items : List α) : Function.Injective fun state => items.foldl step state := by
  induction items with
  | nil => exact fun _ _ same => same
  | cons item rest ih =>
    intro first second same
    exact carries item (ih same)

/-- One item is another one. -/
theorem foldl_ne_of_ne {step : σ → α → σ} (carries : ∀ item, Function.Injective fun state => step state item)
    (tells : ∀ state, Function.Injective (step state)) (start : σ) (front rest : List α) {item other : α}
    (differ : item ≠ other) : (front ++ item :: rest).foldl step start ≠ (front ++ other :: rest).foldl step start := by
  intro same
  rw [List.foldl_append, List.foldl_append, List.foldl_cons, List.foldl_cons] at same
  exact differ (tells _ (foldl_injective carries rest same))

/-- Lists of one length that differ at one place only. -/
theorem exists_split_of_existsUnique {first second : List α} (size : first.length = second.length)
    (one : ∃! index : Nat, first[index]? ≠ second[index]?) :
    ∃ front item other rest, item ≠ other ∧ first = front ++ item :: rest ∧ second = front ++ other :: rest := by
  obtain ⟨index, differ, only⟩ := one
  have same : ∀ other, other ≠ index → first[other]? = second[other]? := by
    intro other apart
    by_contra unlike
    exact apart (only other unlike)
  have inside : index < first.length := by
    by_contra beyond
    rw [List.getElem?_eq_none (not_lt.mp beyond), List.getElem?_eq_none (size ▸ not_lt.mp beyond)] at differ
    exact differ rfl
  have within : index < second.length := size ▸ inside
  have front : first.take index = second.take index := by
    apply List.ext_getElem?
    intro place
    rw [List.getElem?_take, List.getElem?_take]
    split_ifs with early
    · exact same place early.ne
    · rfl
  have rest : first.drop (index + 1) = second.drop (index + 1) := by
    apply List.ext_getElem?
    intro place
    rw [List.getElem?_drop, List.getElem?_drop]
    exact same _ (by omega)
  refine ⟨first.take index, first[index], second[index], first.drop (index + 1), ?_, ?_, ?_⟩
  · intro equal
    apply differ
    rw [List.getElem?_eq_getElem inside, List.getElem?_eq_getElem within, equal]
  · rw [← List.drop_eq_getElem_cons inside, List.take_append_drop]
  · rw [front, rest, ← List.drop_eq_getElem_cons within, List.take_append_drop]

end TelemetryFabric.Library
