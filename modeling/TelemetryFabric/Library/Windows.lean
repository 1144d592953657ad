import Mathlib.Algebra.BigOperators.Group.List.Basic
import Mathlib.Algebra.Order.BigOperators.Group.List
import Mathlib.Algebra.Order.Ring.Nat

/-!
Items charged to windows of a fixed length. Each item carries the start of the window it is
charged to; windows with different starts do not overlap. If no window is charged more than a
limit, no interval of a window's length holds more than twice the limit, wherever it lies.
-/

namespace TelemetryFabric.Library

section Windows

variable {α : Type}

/-- What the kept items cost together. -/
def costOf (cost : α → Nat) (keep : α → Bool) (items : List α) : Nat := ((items.filter keep).map cost).sum

variable {cost : α → Nat} {keep wide side : α → Bool} {items : List α}

@[simp] theorem costOf_nil : costOf cost keep [] = 0 := rfl

theorem costOf_append (first second : List α) :
    costOf cost keep (first ++ second) = costOf cost keep first + costOf cost keep second := by
  simp only [costOf, List.filter_append, List.map_append, List.sum_append]

theorem costOf_singleton (item : α) : costOf cost keep [item] = if keep item then cost item else 0 := by
  by_cases kept : keep item = true
  · simp [costOf, kept]
  · simp [costOf, kept]

theorem costOf_cons (item : α) (rest : List α) :
    costOf cost keep (item :: rest) = (if keep item then cost item else 0) + costOf cost keep rest := by
  rw [← List.singleton_append, costOf_append, costOf_singleton]

theorem costOf_mono (within : ∀ item ∈ items, keep item = true → wide item = true) :
    costOf cost keep items ≤ costOf cost wide items := by
  induction items with
  | nil => exact Nat.le_refl 0
  | cons item rest ih =>
    have later := ih (fun other member => within other (List.mem_cons_of_mem _ member))
    have here := within item (by simp)
    rw [costOf_cons, costOf_cons]
    by_cases kept : keep item = true
    · rw [if_pos kept, if_pos (here kept)]
      omega
    · rw [if_neg kept]
      omega

theorem costOf_split (side : α → Bool) :
    costOf cost keep items =
      costOf cost (fun item => keep item && side item) items + costOf cost (fun item => keep item && !side item) items := by
  induction items with
  | nil => rfl
  | cons item rest ih =>
    simp only [costOf_cons, ih]
    cases keep item <;> cases side item <;> simp <;> omega

variable {span limit : Nat} {start time : α → Nat}

/-- Every item lies in its window, and a window that starts later starts once the earlier is over. -/
structure Spaced (span : Nat) (start time : α → Nat) (items : List α) : Prop where
  inside : ∀ item ∈ items, start item ≤ time item ∧ time item < start item + span
  apart : ∀ item ∈ items, ∀ other ∈ items, start item < start other → start item + span ≤ start other

theorem Spaced.nil : Spaced span start time [] := ⟨by simp, by simp⟩

theorem Spaced.filter (spaced : Spaced span start time items) (keep : α → Bool) :
    Spaced span start time (items.filter keep) :=
  ⟨fun item member => spaced.inside item (List.mem_of_mem_filter member),
    fun item member other later => spaced.apart item (List.mem_of_mem_filter member) other (List.mem_of_mem_filter later)⟩

/-- An item joins the latest window or opens one behind it. -/
theorem Spaced.append (spaced : Spaced span start time items) {item : α}
    (inside : start item ≤ time item ∧ time item < start item + span)
    (newest : ∀ other ∈ items, start other = start item ∨ start other + span ≤ start item) :
    Spaced span start time (items ++ [item]) := by
  constructor
  · intro other member
    rcases List.mem_append.mp member with old | new
    · exact spaced.inside other old
    · rw [List.mem_singleton.mp new]
      exact inside
  · intro first firstIn second secondIn before
    rcases List.mem_append.mp firstIn with oldFirst | newFirst <;> rcases List.mem_append.mp secondIn with oldSecond | newSecond
    · exact spaced.apart first oldFirst second oldSecond before
    · rw [List.mem_singleton.mp newSecond] at before ⊢
      have := newest first oldFirst
      omega
    · rw [List.mem_singleton.mp newFirst] at before ⊢
      have := newest second oldSecond
      omega
    · rw [List.mem_singleton.mp newFirst, List.mem_singleton.mp newSecond] at before
      omega

/-- Items that share a window are within its limit. -/
theorem costOf_le_of_shared (bounded : ∀ window, costOf cost (fun item => start item == window) items ≤ limit)
    (shared : ∀ item ∈ items, ∀ other ∈ items, keep item = true → keep other = true → start item = start other) :
    costOf cost keep items ≤ limit := by
  by_cases anyKept : ∃ item ∈ items, keep item = true
  · obtain ⟨item, member, kept⟩ := anyKept
    have within : costOf cost keep items ≤ costOf cost (fun other => start other == start item) items := by
      apply costOf_mono
      intro other otherIn otherKept
      exact beq_iff_eq.mpr (shared other otherIn item member otherKept kept)
    exact Nat.le_trans within (bounded _)
  · have nothing : costOf cost keep items ≤ costOf cost (fun item => start item == 0) items := by
      apply costOf_mono
      intro item member kept
      exact absurd ⟨item, member, kept⟩ anyKept
    exact Nat.le_trans nothing (bounded 0)

/-- An interval of a window's length meets two windows at most: one that was open when the interval
began and one that starts inside it. -/
theorem Spaced.costOf_interval_le (spaced : Spaced span start time items)
    (bounded : ∀ window, costOf cost (fun item => start item == window) items ≤ limit) (begins : Nat) :
    costOf cost (fun item => decide (begins ≤ time item ∧ time item < begins + span)) items ≤ 2 * limit := by
  have opened : costOf cost (fun item => decide (begins ≤ time item ∧ time item < begins + span) &&
      decide (start item < begins)) items ≤ limit := by
    apply costOf_le_of_shared bounded
    intro item member other otherIn kept otherKept
    simp only [Bool.and_eq_true, decide_eq_true_eq] at kept otherKept
    have := spaced.inside item member
    have := spaced.inside other otherIn
    have := spaced.apart item member other otherIn
    have := spaced.apart other otherIn item member
    omega
  have started : costOf cost (fun item => decide (begins ≤ time item ∧ time item < begins + span) &&
      !decide (start item < begins)) items ≤ limit := by
    apply costOf_le_of_shared bounded
    intro item member other otherIn kept otherKept
    simp only [Bool.and_eq_true, Bool.not_eq_true', decide_eq_true_eq, decide_eq_false_iff_not] at kept otherKept
    have := spaced.inside item member
    have := spaced.inside other otherIn
    have := spaced.apart item member other otherIn
    have := spaced.apart other otherIn item member
    omega
  rw [costOf_split (fun item => decide (start item < begins))]
  omega

end Windows

end TelemetryFabric.Library
