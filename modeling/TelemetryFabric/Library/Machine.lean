import Mathlib.Data.List.Basic

/-! Partial step functions and the states their runs reach. A step may be allowed or not
depending on the state it is taken from; an invariant is proved for one allowed step and
holds in every state that allowed steps lead to. -/

namespace TelemetryFabric.Library

section Machine

variable {σ α : Type} (step : σ → α → Option σ) (allowed : σ → α → Prop)

/-- Take the listed steps in order. -/
def run : σ → List α → Option σ
  | state, [] => some state
  | state, action :: rest => (step state action).bind fun next => run next rest

inductive Reaches (start : σ) : σ → Prop where
  | here : Reaches start start
  | after {state next : σ} {action : α} (before : Reaches start state)
      (permitted : allowed state action) (taken : step state action = some next) :
      Reaches start next

variable {step allowed}

theorem Reaches.invariant {P : σ → Prop} {start state : σ} (reached : Reaches step allowed start state)
    (initial : P start)
    (keeps : ∀ {state action next}, P state → allowed state action → step state action = some next →
      P next) : P state := by
  induction reached with
  | here => exact initial
  | after before permitted taken ih => exact keeps ih permitted taken

theorem Reaches.trans {first middle last : σ} (early : Reaches step allowed first middle)
    (late : Reaches step allowed middle last) : Reaches step allowed first last := by
  induction late with
  | here => exact early
  | after before permitted taken ih => exact ih.after permitted taken

theorem Reaches.mono {other : σ → α → Prop} {start state : σ}
    (weaker : ∀ state action, allowed state action → other state action)
    (reached : Reaches step allowed start state) : Reaches step other start state := by
  induction reached with
  | here => exact .here
  | after before permitted taken ih => exact ih.after (weaker _ _ permitted) taken

theorem Reaches.of_run {actions : List α} {start state : σ}
    (permitted : ∀ action ∈ actions, ∀ state, allowed state action)
    (ran : run step start actions = some state) : Reaches step allowed start state := by
  induction actions generalizing start with
  | nil =>
    cases ran
    exact .here
  | cons action rest ih =>
    rw [run] at ran
    obtain ⟨next, taken, later⟩ := Option.bind_eq_some_iff.mp ran
    have first : Reaches step allowed start next :=
      .after .here (permitted action (by simp) start) taken
    exact first.trans (ih (fun other member => permitted other (List.mem_cons_of_mem _ member)) later)

/-- A run whose steps are checked as they are taken. -/
theorem Reaches.of_checked_run [∀ state action, Decidable (allowed state action)] {actions : List α}
    {start state : σ}
    (ran : run (fun state action => if allowed state action then step state action else none)
      start actions = some state) : Reaches step allowed start state := by
  induction actions generalizing start with
  | nil =>
    cases ran
    exact .here
  | cons action rest ih =>
    rw [run] at ran
    obtain ⟨next, taken, later⟩ := Option.bind_eq_some_iff.mp ran
    by_cases permitted : allowed start action
    · rw [if_pos permitted] at taken
      exact Reaches.trans (.after .here permitted taken) (ih later)
    · rw [if_neg permitted] at taken
      cases taken

end Machine

end TelemetryFabric.Library
