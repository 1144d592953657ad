import Mathlib.Data.List.Basic

/-! A first-in first-out list that remembers what has been taken from it. -/

namespace TelemetryFabric.Library

structure Fifo (α : Type) where
  taken : List α
  waiting : List α

namespace Fifo

variable {α : Type}

def put (queue : Fifo α) (item : α) : Fifo α := ⟨queue.taken, queue.waiting ++ [item]⟩

/-- Take the first `count` items, or all if there are fewer. -/
def take (queue : Fifo α) (count : Nat) : Fifo α :=
  ⟨queue.taken ++ queue.waiting.take count, queue.waiting.drop count⟩

/-- Everything that was ever put, in order. -/
def history (queue : Fifo α) : List α := queue.taken ++ queue.waiting

/-- The moves of a queue, with the items each adds to its history. -/
inductive Moves (queue : Fifo α) : List α → Fifo α → Prop where
  | put (item : α) : Moves queue [item] (queue.put item)
  | take (count : Nat) : Moves queue [] (queue.take count)

theorem take_zero (queue : Fifo α) : queue.take 0 = queue := by
  simp [take]

theorem Moves.idle (queue : Fifo α) : Moves queue [] queue := by
  have moves : Moves queue [] (queue.take 0) := .take 0
  rwa [take_zero] at moves

/-- Taking a prefix of what waits, by length. -/
theorem Moves.of_prefix {queue : Fifo α} {first rest : List α} (split : first ++ rest = queue.waiting) :
    Moves queue [] ⟨queue.taken ++ first, rest⟩ := by
  have moves : Moves queue [] (queue.take first.length) := .take first.length
  rw [Fifo.take, ← split, List.take_left, List.drop_left] at moves
  exact moves

theorem Moves.history_eq {queue later : Fifo α} {added : List α} (moves : Moves queue added later) :
    later.history = queue.history ++ added := by
  cases moves with
  | put item => simp [history, Fifo.put]
  | take count => simp [history, Fifo.take]

end Fifo

end TelemetryFabric.Library
