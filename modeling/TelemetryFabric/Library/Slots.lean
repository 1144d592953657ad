import Mathlib.Data.List.Perm.Basic

/-! Numbered processes as the slots of a list: one more starts behind the others, and one of them
moves while the others are where they were. -/

namespace TelemetryFabric.Library

section Slots

variable {α β : Type} {items : List α} {id other : Nat} {new found : α}

theorem getElem?_set_cases (there : (items.set id new)[other]? = some found) :
    other = id ∧ found = new ∨ other ≠ id ∧ items[other]? = some found := by
  rw [List.getElem?_set] at there
  split_ifs at there with same inside
  · exact Or.inl ⟨same.symm, (Option.some.inj there).symm⟩
  · exact Or.inr ⟨fun again => same again.symm, there⟩

theorem getElem?_append_singleton_cases (there : (items ++ [new])[other]? = some found) :
    found = new ∨ items[other]? = some found := by
  rw [List.getElem?_append] at there
  split_ifs at there
  · exact Or.inr there
  · exact Or.inl (List.mem_singleton.mp (List.mem_of_getElem? there))

/-- What the slots show, when one that has shown nothing moves. -/
theorem filterMap_set {f : α → Option β} {old : α} (here : items[id]? = some old) (before : f old = none) :
    ((items.set id new).filterMap f).Perm ((f new).toList ++ items.filterMap f) := by
  induction items generalizing id with
  | nil => cases here
  | cons head rest ih =>
    cases id with
    | zero =>
      obtain rfl : head = old := Option.some.inj here
      rw [List.set_cons_zero, List.filterMap_cons_none before]
      cases after : f new with
      | none =>
        rw [List.filterMap_cons_none after]
        exact .refl _
      | some value =>
        rw [List.filterMap_cons_some after]
        exact .refl _
    | succ id =>
      have tail : ((rest.set id new).filterMap f).Perm ((f new).toList ++ rest.filterMap f) := ih here
      rw [List.set_cons_succ]
      cases first : f head with
      | none =>
        rw [List.filterMap_cons_none first, List.filterMap_cons_none first]
        exact tail
      | some value =>
        rw [List.filterMap_cons_some first, List.filterMap_cons_some first]
        exact (tail.cons value).trans List.perm_middle.symm

end Slots

end TelemetryFabric.Library
