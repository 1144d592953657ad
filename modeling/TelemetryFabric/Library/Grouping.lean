import TelemetryFabric.Library.OrderedMap
import Mathlib.Data.List.Count
import Mathlib.Data.List.Flatten

/-! Items filed under keys, each under any number of them: what is under a key are the copies
that were filed there, in the order of the items. -/

namespace TelemetryFabric.Library

namespace OrderedMap

variable {κ α : Type} [LinearOrder κ]

/-- The items under a key. -/
def group (groups : OrderedMap κ (List α)) (key : κ) : List α := (groups.find? key).getD []

def push (groups : OrderedMap κ (List α)) (key : κ) (item : α) : OrderedMap κ (List α) :=
  groups.insert key (groups.group key ++ [item])

/-- A key is there only with items. -/
def Filled (groups : OrderedMap κ (List α)) : Prop := ∀ key, groups.find? key ≠ some []

theorem filled_empty : (empty : OrderedMap κ (List α)).Filled := by
  intro key found
  cases found

theorem group_push (groups : OrderedMap κ (List α)) (key other : κ) (item : α) :
    (groups.push key item).group other = groups.group other ++ if other = key then [item] else [] := by
  unfold push
  rw [group, find?_insert]
  by_cases same : other = key
  · rw [if_pos same, if_pos same, same]
    rfl
  · rw [if_neg same, if_neg same, List.append_nil]
    rfl

theorem Filled.push {groups : OrderedMap κ (List α)} (filled : groups.Filled) (key : κ) (item : α) :
    (groups.push key item).Filled := by
  intro other
  unfold OrderedMap.push
  rw [find?_insert]
  by_cases same : other = key
  · rw [if_pos same]
    simp
  · rw [if_neg same]
    exact filled other

/-- An item that is filed under a list of keys comes under each of them as often as it is listed. -/
theorem group_pushAll (keys : List κ) (groups : OrderedMap κ (List α)) (other : κ) (item : α) :
    (keys.foldl (fun filed key => filed.push key item) groups).group other =
      groups.group other ++ List.replicate (keys.count other) item := by
  induction keys generalizing groups with
  | nil => simp
  | cons key rest ih =>
    rw [List.foldl_cons, ih, group_push, List.append_assoc]
    by_cases same : key = other
    · rw [if_pos same.symm, same, List.count_cons_self, List.replicate_succ]
      rfl
    · rw [if_neg (Ne.symm same), List.count_cons_of_ne same]
      rfl

theorem Filled.pushAll {groups : OrderedMap κ (List α)} (filled : groups.Filled) (keys : List κ) (item : α) :
    (keys.foldl (fun filed key => filed.push key item) groups).Filled := by
  induction keys generalizing groups with
  | nil => exact filled
  | cons key rest ih => exact ih (filled.push key item)

theorem Filled.mem_entries_iff {groups : OrderedMap κ (List α)} (filled : groups.Filled) (key : κ)
    (items : List α) : (key, items) ∈ groups.entries ↔ groups.group key = items ∧ items ≠ [] := by
  rw [← find?_eq_some_iff, group]
  have full := filled key
  cases found : groups.find? key with
  | none => simp
  | some kept =>
    rw [found] at full
    simp only [Option.some.injEq, Option.getD_some]
    constructor
    · intro same
      exact ⟨same, fun none => full (by rw [same, none])⟩
    · intro same
      exact same.1

end OrderedMap

section Copies

variable {α σ : Type} [DecidableEq σ] (kind : α → σ) (copies : σ → Nat)

/-- Each item as often as its kind says. -/
def repeated (items : List α) : List α := items.flatMap fun item => List.replicate (copies (kind item)) item

theorem countP_repeated (one : σ) (items : List α) :
    (repeated kind copies items).countP (fun item => kind item = one) =
      copies one * items.countP fun item => kind item = one := by
  induction items with
  | nil => rfl
  | cons item rest ih =>
    have here : repeated kind copies (item :: rest) =
        List.replicate (copies (kind item)) item ++ repeated kind copies rest := List.flatMap_cons
    rw [here, List.countP_append, ih, List.countP_replicate]
    by_cases same : kind item = one
    · rw [List.countP_cons_of_pos (by simpa using same), if_pos (by simpa using same), same, Nat.mul_succ]
      exact Nat.add_comm _ _
    · rw [List.countP_cons_of_neg (by simpa using same), if_neg (by simpa using same)]
      exact Nat.zero_add _

/-- Repeating the items selects those with a property of their kind exactly when each kind that
occurs is taken once or not at all, as the property says. -/
theorem repeated_eq_filter_iff (chosen : σ → Prop) [DecidablePred chosen] (items : List α) :
    repeated kind copies items = items.filter (fun item => chosen (kind item)) ↔
      ∀ item ∈ items, copies (kind item) = if chosen (kind item) then 1 else 0 := by
  constructor
  · intro same item member
    have counted := congrArg (List.countP fun other => kind other = kind item) same
    rw [countP_repeated, List.countP_filter] at counted
    have occurs : 0 < items.countP (fun other => kind other = kind item) :=
      List.countP_pos_iff.mpr ⟨item, member, by simp⟩
    by_cases takes : chosen (kind item)
    · have all : items.countP (fun other => decide (kind other = kind item) && decide (chosen (kind other))) =
          items.countP fun other => kind other = kind item := by
        apply List.countP_congr
        intro other _
        simp only [Bool.and_eq_true, decide_eq_true_eq, and_iff_left_iff_imp]
        intro equal
        rw [equal]
        exact takes
      rw [all] at counted
      rw [if_pos takes]
      exact Nat.eq_of_mul_eq_mul_right occurs (counted.trans (Nat.one_mul _).symm)
    · have never : items.countP (fun other => decide (kind other = kind item) && decide (chosen (kind other))) = 0 := by
        apply List.countP_eq_zero.mpr
        intro other _ both
        simp only [Bool.and_eq_true, decide_eq_true_eq] at both
        exact takes (both.1 ▸ both.2)
      rw [never] at counted
      rw [if_neg takes]
      exact (Nat.mul_eq_zero.mp counted).resolve_right (Nat.pos_iff_ne_zero.mp occurs)
  · intro once
    induction items with
    | nil => rfl
    | cons item rest ih =>
      have here : repeated kind copies (item :: rest) =
          List.replicate (copies (kind item)) item ++ repeated kind copies rest := List.flatMap_cons
      rw [here, once item (by simp), ih fun other member => once other (List.mem_cons_of_mem _ member)]
      by_cases takes : chosen (kind item)
      · rw [if_pos takes, List.filter_cons_of_pos (by simpa using takes)]
        rfl
      · rw [if_neg takes, List.filter_cons_of_neg (by simpa using takes)]
        rfl

end Copies

end TelemetryFabric.Library
