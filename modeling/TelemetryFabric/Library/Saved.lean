import Mathlib.Logic.Function.Basic

/-! Cells with a content in memory and a saved one, and operations that update several of them one
after another. An update that fails keeps or loses what is saved of its cell. Then the cell, and
the one on whose behalf the operation runs, are loaded again. -/

namespace TelemetryFabric.Library

structure Cells {ι : Type} (Content : ι → Type) where
  memory : ∀ cell, Content cell
  saved : ∀ cell, Option (Content cell)

structure CellUpdate {ι : Type} (Content : ι → Type) where
  cell : ι
  change : Content cell → Content cell

/-- How a content is saved; behind a stop nothing else happens. -/
inductive Saving where
  | done
  | failed (lost : Bool)
  | stopped
  deriving DecidableEq

/-- How an operation ends, and with what. -/
inductive Performed {ι : Type} (Content : ι → Type) where
  | done (cells : Cells Content)
  | failed (cells : Cells Content)
  | stopped

section Cells

variable {ι : Type} [DecidableEq ι] {Content : ι → Type} (initial : ∀ cell, Content cell)

namespace Cells

def load (saved : ∀ cell, Option (Content cell)) (cell : ι) : Content cell := (saved cell).getD (initial cell)

/-- Loading a cell again does not change it. -/
def Settled (cells : Cells Content) : Prop := ∀ cell, load initial cells.saved cell = cells.memory cell

def commit (cells : Cells Content) (update : CellUpdate Content) : Cells Content :=
  let content := update.change (cells.memory update.cell)
  ⟨Function.update cells.memory update.cell content, Function.update cells.saved update.cell (some content)⟩

/-- The saved contents behind a failure. -/
def left (cells : Cells Content) (update : CellUpdate Content) (lost : Bool) : ∀ cell, Option (Content cell) :=
  if lost then Function.update cells.saved update.cell none else cells.saved

def restart (owner : ι) (cells : Cells Content) (update : CellUpdate Content) (lost : Bool) : Cells Content :=
  let saved := cells.left update lost
  ⟨fun cell => if cell = update.cell ∨ cell = owner then load initial saved cell else cells.memory cell, saved⟩

end Cells

/-- The updates of an operation, from the given one on. -/
def perform (owner : ι) (saving : Nat → Saving) : Nat → List (CellUpdate Content) → Cells Content → Performed Content
  | _, [], cells => .done cells
  | index, update :: rest, cells =>
      match saving index with
      | .done => perform owner saving (index + 1) rest (cells.commit update)
      | .failed lost => .failed (cells.restart initial owner update lost)
      | .stopped => .stopped

/-- If there are later updates, the first one makes a difference, which they leave alone. -/
structure Staged (memory : ∀ cell, Content cell) (first : CellUpdate Content) (rest : List (CellUpdate Content)) :
    Prop where
  apart : ∀ update ∈ rest, update.cell ≠ first.cell
  changes : rest ≠ [] → first.change (memory first.cell) ≠ memory first.cell

variable {initial} {cells after : Cells Content} {owner : ι} {saving : Nat → Saving}

theorem Cells.Settled.commit (settled : cells.Settled initial) (update : CellUpdate Content) :
    (cells.commit update).Settled initial := by
  intro cell
  unfold Cells.load Cells.commit
  by_cases same : cell = update.cell
  · subst same
    simp only [Function.update_self, Option.getD_some]
  · simp only [Function.update_of_ne same]
    exact settled cell

theorem Cells.left_of_ne (cells : Cells Content) (update : CellUpdate Content) (lost : Bool) {cell : ι}
    (other : cell ≠ update.cell) : cells.left update lost cell = cells.saved cell := by
  unfold Cells.left
  cases lost with
  | true => exact Function.update_of_ne other _ _
  | false => rfl

/-- The other cells are as they were behind a failure. -/
theorem Cells.Settled.restart_of_ne (settled : cells.Settled initial) (update : CellUpdate Content) (lost : Bool)
    {cell : ι} (other : cell ≠ update.cell) :
    (cells.restart initial owner update lost).memory cell = cells.memory cell := by
  simp only [Cells.restart, Cells.load, cells.left_of_ne update lost other]
  split
  · exact settled cell
  · rfl

/-- The cell itself is as it was, or has its first content. -/
theorem Cells.Settled.restart_self (settled : cells.Settled initial) (update : CellUpdate Content) (lost : Bool) :
    (cells.restart initial owner update lost).memory update.cell =
      if lost then initial update.cell else cells.memory update.cell := by
  simp only [Cells.restart, Cells.load, Cells.left, true_or, if_true]
  cases lost with
  | true => simp
  | false => exact settled update.cell

theorem Cells.Settled.restart (settled : cells.Settled initial) (update : CellUpdate Content) (lost : Bool) :
    (cells.restart initial owner update lost).Settled initial := by
  intro cell
  by_cases other : cell = update.cell
  · simp only [Cells.restart, other, true_or, if_true]
  · rw [settled.restart_of_ne update lost other, ← settled cell]
    have saved : cells.left update lost cell = cells.saved cell := cells.left_of_ne update lost other
    simp only [Cells.restart, Cells.load, saved]

/-- Whether it is done or fails, an operation leaves settled cells. -/
theorem settled_of_perform {first : Nat} {updates : List (CellUpdate Content)} (settled : cells.Settled initial)
    (ran : perform initial owner saving first updates cells = .done after ∨
      perform initial owner saving first updates cells = .failed after) : after.Settled initial := by
  induction updates generalizing first cells with
  | nil =>
    rcases ran with done | failed
    · cases done
      exact settled
    · cases failed
  | cons update rest ih =>
    rw [perform] at ran
    cases outcome : saving first with
    | done =>
      rw [outcome] at ran
      exact ih (settled.commit update) ran
    | failed lost =>
      rw [outcome] at ran
      rcases ran with done | failed
      · cases done
      · cases failed
        exact settled.restart update lost
    | stopped =>
      rw [outcome] at ran
      rcases ran with done | failed
      · cases done
      · cases failed

/-- A cell that is not updated is as it was. -/
theorem perform_other {first : Nat} {updates : List (CellUpdate Content)} (settled : cells.Settled initial)
    {cell : ι} (apart : ∀ update ∈ updates, update.cell ≠ cell)
    (failed : perform initial owner saving first updates cells = .failed after) :
    after.memory cell = cells.memory cell := by
  induction updates generalizing first cells with
  | nil => cases failed
  | cons update rest ih =>
    obtain ⟨here, later⟩ := List.forall_mem_cons.mp apart
    rw [perform] at failed
    cases outcome : saving first with
    | done =>
      rw [outcome] at failed
      rw [ih (settled.commit update) later failed]
      exact Function.update_of_ne here.symm _ _
    | failed lost =>
      rw [outcome] at failed
      cases failed
      exact settled.restart_of_ne update lost here.symm
    | stopped =>
      rw [outcome] at failed
      cases failed

/-- An operation that has failed leaves no trace exactly when its first update failed, without losing
what was saved unless that was the first content. -/
theorem unchanged_iff {first : CellUpdate Content} {rest : List (CellUpdate Content)}
    (settled : cells.Settled initial) (staged : Staged cells.memory first rest)
    (failed : perform initial owner saving 0 (first :: rest) cells = .failed after) :
    after.memory = cells.memory ↔ saving 0 = .failed false ∨
      saving 0 = .failed true ∧ cells.memory first.cell = initial first.cell := by
  rw [perform] at failed
  cases outcome : saving 0 with
  | done =>
    rw [outcome] at failed
    have more : rest ≠ [] := by
      intro nothing
      rw [nothing] at failed
      cases failed
    have kept : after.memory first.cell = first.change (cells.memory first.cell) := by
      rw [perform_other (settled.commit first) staged.apart failed]
      exact Function.update_self ..
    constructor
    · intro same
      rw [same] at kept
      exact absurd kept.symm (staged.changes more)
    · rintro (kept | ⟨lost, -⟩)
      · cases kept
      · cases lost
  | failed lost =>
    rw [outcome] at failed
    cases failed
    have self : (cells.restart initial owner first lost).memory first.cell =
        if lost then initial first.cell else cells.memory first.cell := settled.restart_self first lost
    cases lost with
    | true =>
      constructor
      · intro same
        rw [same] at self
        exact Or.inr ⟨rfl, self⟩
      · rintro (kept | ⟨-, untouched⟩)
        · cases kept
        · funext cell
          by_cases here : cell = first.cell
          · subst here
            exact self.trans untouched.symm
          · exact settled.restart_of_ne first true here
    | false =>
      refine ⟨fun _ => Or.inl rfl, fun _ => ?_⟩
      funext cell
      by_cases here : cell = first.cell
      · subst here
        exact self
      · exact settled.restart_of_ne first false here
  | stopped =>
    rw [outcome] at failed
    cases failed

end Cells

end TelemetryFabric.Library
