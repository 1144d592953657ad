import TelemetryFabric.Library.Machine
import TelemetryFabric.Library.Slots
import Mathlib.Data.Finset.Max
import Mathlib.Data.List.Nodup
import Mathlib.Order.Nat

/-!
Transactions that select the rows of a table they want, lock one after another in the order of
their ranks, read each again once they have its lock, and change what they took when they commit.
Any number of them run at a time. What each of them does to a row is nevertheless done to the row
as the transaction before it left it, and they never wait for each other in a circle.
-/

namespace TelemetryFabric.Library

variable {γ ρ κ τ : Type} [DecidableEq κ] [LinearOrder τ]

/-- Which rows a transaction selects, and what it sets in them, other than the key and the rank. -/
structure RowChange (key : ρ → κ) (rank : ρ → τ) where
  wants : ρ → Bool
  set : ρ → ρ
  keeps_key : ∀ row, key (set row) = key row
  keeps_rank : ∀ row, rank (set row) = rank row

/-- An open transaction has the keys it still has to lock, those it has locked, and the rows among
them that it still wanted then. -/
inductive RowCall (γ ρ κ : Type) where
  | locking (call : γ) (rest locked : List κ) (taken : List ρ)
  | ended
  deriving DecidableEq

structure RowCommit (γ ρ : Type) where
  call : γ
  taken : List ρ
  deriving DecidableEq

structure LockedTable (γ ρ κ : Type) where
  rows : List ρ
  calls : List (RowCall γ ρ κ)
  log : List (RowCommit γ ρ)

inductive RowEvent (γ ρ : Type) where
  | inserts (row : ρ)
  | begins (call : γ)
  | locks (id : Nat)
  | commits (id : Nat)
  | aborts (id : Nat)

def RowCall.holds (key : κ) : RowCall γ ρ κ → Bool
  | .locking _ _ locked _ => decide (key ∈ locked)
  | .ended => false

namespace LockedTable

variable (key : ρ → κ) (rank : ρ → τ) (change : γ → RowChange key rank)

def initial : LockedTable γ ρ κ := ⟨[], [], []⟩

/-- The keys of the rows that a statement sees and wants. -/
def snapshot (call : γ) (rows : List ρ) : List κ :=
  ((rows.filter (change call).wants).mergeSort fun first second => decide (rank first ≤ rank second)).map key

def goesTo (table : LockedTable γ ρ κ) (id : Nat) (call : RowCall γ ρ κ) : LockedTable γ ρ κ :=
  { table with calls := table.calls.set id call }

/-- The rows behind an update of the taken ones. -/
def update (call : γ) (taken rows : List ρ) : List ρ :=
  rows.map fun row => if key row ∈ taken.map key then (change call).set row else row

/-- There is no next state where a call waits for a lock. A row under a key that is taken is not
inserted. -/
def step (table : LockedTable γ ρ κ) : RowEvent γ ρ → Option (LockedTable γ ρ κ)
  | .inserts row =>
      if key row ∈ table.rows.map key then some table else some { table with rows := table.rows ++ [row] }
  | .begins call =>
      some { table with calls := table.calls ++ [.locking call (snapshot key rank change call table.rows) [] []] }
  | .locks id =>
      match table.calls[id]? with
      | some (.locking call (next :: rest) locked taken) =>
          if table.calls.any (RowCall.holds next) then none
          else
            match table.rows.find? fun row => key row = next with
            | some row =>
                let taken := if (change call).wants row then taken ++ [row] else taken
                some (table.goesTo id (.locking call rest (locked ++ [next]) taken))
            | none => none
      | _ => none
  | .commits id =>
      match table.calls[id]? with
      | some (.locking call [] _ taken) => some
          { table.goesTo id .ended with
            rows := update key rank change call taken table.rows
            log := table.log ++ [⟨call, taken⟩] }
      | _ => none
  | .aborts id =>
      match table.calls[id]? with
      | some (.locking _ _ _ _) => some (table.goesTo id .ended)
      | _ => none

end LockedTable

/-! ### One transaction after another -/

section Serial

variable {key : ρ → κ} {rank : ρ → τ} (change : γ → RowChange key rank)

/-- What commits have made of a row, in their order. A commit that took the row wanted it as it was. -/
inductive Replays (name : κ) (first : ρ) : List (RowCommit γ ρ) → ρ → Prop where
  | inserted : Replays name first [] first
  | passes {log : List (RowCommit γ ρ)} {row : ρ} {commit : RowCommit γ ρ}
      (earlier : Replays name first log row) (others : name ∉ commit.taken.map key) :
      Replays name first (log ++ [commit]) row
  | takes {log : List (RowCommit γ ρ)} {row : ρ} {commit : RowCommit γ ρ}
      (earlier : Replays name first log row) (named : key row = name) (taken : row ∈ commit.taken)
      (only : ∀ other ∈ commit.taken, key other = name → other = row)
      (wanted : (change commit.call).wants row = true) :
      Replays name first (log ++ [commit]) ((change commit.call).set row)

/-- The keys in the order of the ranks of their rows. -/
def Ascending (key : ρ → κ) (rank : ρ → τ) (rows : List ρ) (keys : List κ) : Prop :=
  keys.Pairwise fun first second => ∀ lower ∈ rows, ∀ upper ∈ rows, key lower = first → key upper = second →
    rank lower < rank upper

/-- What an open transaction knows of the committed rows. -/
structure Selects (rows : List ρ) (call : γ) (rest locked : List κ) (taken : List ρ) : Prop where
  present : ∀ name ∈ locked ++ rest, name ∈ rows.map key
  ascending : Ascending key rank rows (locked ++ rest)
  current : ∀ row ∈ taken, row ∈ rows ∧ key row ∈ locked ∧ (change call).wants row = true

def RowCall.Sound (rows : List ρ) : RowCall γ ρ κ → Prop
  | .locking call rest locked taken => Selects change rows call rest locked taken
  | .ended => True

structure LockedTable.Serial (begun : ρ → Prop) (table : LockedTable γ ρ κ) : Prop where
  unique : (table.rows.map key).Nodup
  sound : ∀ (id : Nat) call, table.calls[id]? = some call → call.Sound change table.rows
  apart : ∀ (id other : Nat) call otherCall name, table.calls[id]? = some call →
    table.calls[other]? = some otherCall → call.holds name = true → otherCall.holds name = true → id = other
  replayed : ∀ row ∈ table.rows, ∃ first, begun first ∧ Replays change (key row) first table.log row
  logged : ∀ commit ∈ table.log, ∀ row ∈ commit.taken, key row ∈ table.rows.map key

variable {change}

/-! ### Updates -/

section Update

variable {call : γ} {taken rows : List ρ}

omit [LinearOrder τ] in
theorem map_key_update : (LockedTable.update key rank change call taken rows).map key = rows.map key := by
  unfold LockedTable.update
  rw [List.map_map]
  apply List.map_congr_left
  intro row _
  dsimp only [Function.comp]
  split_ifs
  · exact (change call).keeps_key row
  · rfl

omit [LinearOrder τ] in
/-- A row that is not taken is as it was. -/
theorem mem_update_of_not_taken {row : ρ} (member : row ∈ rows) (others : key row ∉ taken.map key) :
    row ∈ LockedTable.update key rank change call taken rows := by
  apply List.mem_map.mpr
  exact ⟨row, member, if_neg others⟩

omit [LinearOrder τ] in
theorem update_cases {row : ρ} (member : row ∈ LockedTable.update key rank change call taken rows) :
    ∃ old ∈ rows, key row = key old ∧ rank row = rank old ∧
      (key old ∉ taken.map key ∧ row = old ∨ key old ∈ taken.map key ∧ row = (change call).set old) := by
  obtain ⟨old, listed, same⟩ := List.mem_map.mp member
  refine ⟨old, listed, ?_⟩
  split_ifs at same with concerned
  · rw [← same]
    exact ⟨(change call).keeps_key old, (change call).keeps_rank old, Or.inr ⟨concerned, rfl⟩⟩
  · rw [← same]
    exact ⟨rfl, rfl, Or.inl ⟨concerned, rfl⟩⟩

theorem Ascending.update {keys : List κ} (ascending : Ascending key rank rows keys) :
    Ascending key rank (LockedTable.update key rank change call taken rows) keys := by
  apply List.Pairwise.imp _ ascending
  intro first second ordered lower lowerListed upper upperListed lowerNamed upperNamed
  obtain ⟨oldLower, lowerThere, lowerKey, lowerRank, -⟩ := update_cases lowerListed
  obtain ⟨oldUpper, upperThere, upperKey, upperRank, -⟩ := update_cases upperListed
  rw [lowerRank, upperRank]
  exact ordered oldLower lowerThere oldUpper upperThere (lowerKey ▸ lowerNamed) (upperKey ▸ upperNamed)

end Update

/-! ### What open transactions know -/

namespace Selects

variable {rows : List ρ} {call : γ} {rest locked : List κ} {taken : List ρ}

omit [DecidableEq κ] in
theorem begins (separates : ∀ first second : ρ, rank first = rank second → key first = key second)
    (unique : (rows.map key).Nodup) :
    Selects change rows call (LockedTable.snapshot key rank change call rows) [] [] := by
  have nodup : (LockedTable.snapshot key rank change call rows).Nodup := by
    have chosen : ((rows.filter (change call).wants).map key).Nodup :=
      unique.sublist (List.filter_sublist.map key)
    apply chosen.perm
    exact (List.mergeSort_perm _ _).symm.map key
  refine ⟨?_, ?_, fun row member => absurd member List.not_mem_nil⟩
  · intro name member
    rw [List.nil_append] at member
    obtain ⟨row, chosen, named⟩ := List.mem_map.mp member
    have listed := (List.mem_filter.mp (List.mem_mergeSort.mp chosen)).1
    exact List.mem_map.mpr ⟨row, listed, named⟩
  · have sorted : ((rows.filter (change call).wants).mergeSort
        fun first second => decide (rank first ≤ rank second)).Pairwise
          fun first second => decide (rank first ≤ rank second) = true := by
      apply List.pairwise_mergeSort
      · intro first second third early late
        rw [decide_eq_true_iff] at early late ⊢
        exact early.trans late
      · intro first second
        rw [Bool.or_eq_true, decide_eq_true_iff, decide_eq_true_iff]
        exact le_total (rank first) (rank second)
    unfold Ascending
    rw [List.nil_append]
    unfold LockedTable.snapshot at nodup ⊢
    rw [List.Nodup, List.pairwise_map] at nodup
    rw [List.pairwise_map]
    apply (sorted.and nodup).imp_of_mem
    intro first second firstChosen secondChosen both lower lowerListed upper upperListed lowerNamed upperNamed
    have firstListed := (List.mem_filter.mp (List.mem_mergeSort.mp firstChosen)).1
    have secondListed := (List.mem_filter.mp (List.mem_mergeSort.mp secondChosen)).1
    obtain rfl : lower = first := List.inj_on_of_nodup_map unique lowerListed firstListed lowerNamed
    obtain rfl : upper = second := List.inj_on_of_nodup_map unique upperListed secondListed upperNamed
    apply lt_of_le_of_ne (of_decide_eq_true both.1)
    intro same
    exact both.2 (separates lower upper same)

omit [DecidableEq κ] in
/-- One more row under a new key. -/
theorem grows (selects : Selects change rows call rest locked taken) {row : ρ} (fresh : key row ∉ rows.map key) :
    Selects change (rows ++ [row]) call rest locked taken := by
  have old : ∀ {other : ρ}, other ∈ rows ++ [row] → key other ∈ locked ++ rest → other ∈ rows := by
    intro other member named
    rcases List.mem_append.mp member with before | new
    · exact before
    · rw [List.mem_singleton.mp new] at named
      exact absurd (selects.present _ named) fresh
  refine ⟨?_, ?_, ?_⟩
  · intro name member
    rw [List.map_append]
    exact List.mem_append_left _ (selects.present name member)
  · apply selects.ascending.imp_of_mem
    intro first second firstNamed secondNamed ordered lower lowerListed upper upperListed lowerNamed upperNamed
    exact ordered lower (old lowerListed (lowerNamed ▸ firstNamed)) upper (old upperListed (upperNamed ▸ secondNamed))
      lowerNamed upperNamed
  · intro other member
    obtain ⟨there, named, wanted⟩ := selects.current other member
    exact ⟨List.mem_append_left _ there, named, wanted⟩

/-- Another transaction changes rows that this one has not locked. -/
theorem updates (selects : Selects change rows call rest locked taken) {other : γ} {changed : List ρ}
    (apart : ∀ name ∈ locked, name ∉ changed.map key) :
    Selects change (LockedTable.update key rank change other changed rows) call rest locked taken := by
  refine ⟨?_, selects.ascending.update, ?_⟩
  · intro name member
    rw [map_key_update]
    exact selects.present name member
  · intro row member
    obtain ⟨there, named, wanted⟩ := selects.current row member
    exact ⟨mem_update_of_not_taken there (apart _ named), named, wanted⟩

omit [DecidableEq κ] in
/-- The next row is locked, and taken if it is still wanted. -/
theorem locks {next : κ} (selects : Selects change rows call (next :: rest) locked taken) {row : ρ}
    (there : row ∈ rows) (named : key row = next) :
    Selects change rows call rest (locked ++ [next]) (if (change call).wants row then taken ++ [row] else taken) := by
  have order : locked ++ [next] ++ rest = locked ++ next :: rest := by
    rw [List.append_assoc, List.singleton_append]
  have before : ∀ old ∈ taken, old ∈ rows ∧ key old ∈ locked ++ [next] ∧ (change call).wants old = true := by
    intro old member
    obtain ⟨listed, held, wanted⟩ := selects.current old member
    exact ⟨listed, List.mem_append_left _ held, wanted⟩
  refine ⟨?_, ?_, ?_⟩
  · rw [order]
    exact selects.present
  · rw [order]
    exact selects.ascending
  · intro old member
    split_ifs at member with wanted
    · rcases List.mem_append.mp member with earlier | last
      · exact before old earlier
      · rw [List.mem_singleton.mp last]
        exact ⟨there, List.mem_append_right _ (named ▸ List.mem_singleton_self _), wanted⟩
    · exact before old member

end Selects

/-! ### The invariant -/

namespace LockedTable.Serial

variable {begun : ρ → Prop} {table next : LockedTable γ ρ κ}

theorem empty : Serial change begun (.initial : LockedTable γ ρ κ) := by
  refine ⟨List.nodup_nil, ?_, ?_, ?_, ?_⟩
  · intro id call there
    cases there
  · intro id other call otherCall name there
    cases there
  · intro row member
    cases member
  · intro commit member
    cases member

/-- The rows under a key are one row. -/
theorem same_of_key (serial : table.Serial change begun) {row other : ρ} (member : row ∈ table.rows)
    (also : other ∈ table.rows) (same : key row = key other) : row = other :=
  List.inj_on_of_nodup_map serial.unique member also same

theorem holds_iff {name : κ} {call : RowCall γ ρ κ} :
    call.holds name = true ↔ ∃ kind rest locked taken, call = .locking kind rest locked taken ∧ name ∈ locked := by
  cases call with
  | locking kind rest locked taken =>
    rw [RowCall.holds, decide_eq_true_iff]
    constructor
    · intro member
      exact ⟨kind, rest, locked, taken, rfl, member⟩
    · rintro ⟨_, _, _, _, same, member⟩
      cases same
      exact member
  | ended =>
    constructor
    · intro none
      cases none
    · rintro ⟨_, _, _, _, same, -⟩
      cases same

/-- A call moves on without more locks than it had, and no row changes. -/
theorem moves (serial : table.Serial change begun) {id : Nat} {call moved : RowCall γ ρ κ}
    (here : table.calls[id]? = some call) (sound : moved.Sound change table.rows)
    (fewer : ∀ name, moved.holds name = true → call.holds name = true ∨
      ∀ (other : Nat) (otherCall : RowCall γ ρ κ), table.calls[other]? = some otherCall →
        otherCall.holds name = false) :
    (table.goesTo id moved).Serial change begun := by
  have back : ∀ {other : Nat} {otherCall : RowCall γ ρ κ} {name}, (table.calls.set id moved)[other]? = some otherCall →
      otherCall.holds name = true → (∃ before, table.calls[other]? = some before ∧ before.holds name = true) ∨
        other = id ∧ ∀ (third : Nat) (thirdCall : RowCall γ ρ κ), table.calls[third]? = some thirdCall →
          thirdCall.holds name = false := by
    intro other otherCall name there held
    rcases getElem?_set_cases there with ⟨same, moves⟩ | ⟨-, old⟩
    · rw [moves] at held
      rcases fewer name held with had | nobody
      · exact Or.inl ⟨call, same ▸ here, had⟩
      · exact Or.inr ⟨same, nobody⟩
    · exact Or.inl ⟨otherCall, old, held⟩
  refine ⟨serial.unique, ?_, ?_, serial.replayed, serial.logged⟩
  · intro other otherCall there
    rcases getElem?_set_cases there with ⟨-, same⟩ | ⟨-, old⟩
    · rw [same]
      exact sound
    · exact serial.sound other otherCall old
  · intro one two oneCall twoCall name thereOne thereTwo heldOne heldTwo
    rcases back thereOne heldOne with ⟨beforeOne, oldOne, hadOne⟩ | ⟨isOne, nobody⟩
    · rcases back thereTwo heldTwo with ⟨beforeTwo, oldTwo, hadTwo⟩ | ⟨-, nobody⟩
      · exact serial.apart one two beforeOne beforeTwo name oldOne oldTwo hadOne hadTwo
      · rw [nobody one beforeOne oldOne] at hadOne
        cases hadOne
    · rcases back thereTwo heldTwo with ⟨beforeTwo, oldTwo, hadTwo⟩ | ⟨isTwo, -⟩
      · rw [nobody two beforeTwo oldTwo] at hadTwo
        cases hadTwo
      · exact isOne.trans isTwo.symm

theorem ends (serial : table.Serial change begun) {id : Nat} {call : RowCall γ ρ κ}
    (here : table.calls[id]? = some call) : (table.goesTo id .ended).Serial change begun := by
  have sound : RowCall.Sound change table.rows .ended := trivial
  apply serial.moves here sound
  intro name held
  cases held

theorem inserts (serial : table.Serial change begun) {row : ρ} (fresh : key row ∉ table.rows.map key)
    (new : begun row) : Serial change begun { table with rows := table.rows ++ [row] } := by
  refine ⟨?_, ?_, serial.apart, ?_, ?_⟩
  · rw [List.map_append, List.nodup_append]
    refine ⟨serial.unique, List.nodup_singleton _, ?_⟩
    intro name old other member same
    rw [List.map_singleton, List.mem_singleton] at member
    exact fresh (member ▸ same ▸ old)
  · intro id call there
    have sound := serial.sound id call there
    cases call with
    | locking kind rest locked taken => exact Selects.grows sound fresh
    | ended => trivial
  · intro other member
    rcases List.mem_append.mp member with old | last
    · exact serial.replayed other old
    · -- no commit has taken a row under the new key
      obtain rfl := List.mem_singleton.mp last
      refine ⟨other, new, ?_⟩
      have passed : ∀ log : List (RowCommit γ ρ), (∀ commit ∈ log, key other ∉ commit.taken.map key) →
          Replays change (key other) other log other := by
        intro log others
        induction log using List.reverseRecOn with
        | nil => exact .inserted
        | append_singleton before commit ih =>
          apply Replays.passes
          · exact ih fun earlier member => others earlier (List.mem_append_left _ member)
          · exact others commit (List.mem_append_right _ (List.mem_singleton_self _))
      apply passed
      intro commit logged taken
      obtain ⟨old, oldTaken, same⟩ := List.mem_map.mp taken
      exact fresh (same ▸ serial.logged commit logged old oldTaken)
  · intro commit logged old taken
    rw [List.map_append]
    exact List.mem_append_left _ (serial.logged commit logged old taken)

theorem commits (serial : table.Serial change begun) {id : Nat} {call : γ} {locked : List κ} {taken : List ρ}
    (here : table.calls[id]? = some (.locking call [] locked taken)) :
    Serial change begun { table.goesTo id .ended with
      rows := update key rank change call taken table.rows
      log := table.log ++ [⟨call, taken⟩] } := by
  have own : Selects change table.rows call [] locked taken := serial.sound id _ here
  have ended := serial.ends here
  refine ⟨?_, ?_, ended.apart, ?_, ?_⟩
  · change (List.map key (update key rank change call taken table.rows)).Nodup
    rw [map_key_update]
    exact serial.unique
  · intro other otherCall there
    cases otherCall with
    | locking kind rest others othersTaken =>
      rcases getElem?_set_cases there with ⟨-, same⟩ | ⟨different, old⟩
      · cases same
      · have selects : Selects change table.rows kind rest others othersTaken := serial.sound other _ old
        apply selects.updates
        intro name held taking
        obtain ⟨row, member, named⟩ := List.mem_map.mp taking
        have mine : name ∈ locked := named ▸ (own.current row member).2.1
        exact different (serial.apart other id _ _ name old here (holds_iff.mpr ⟨_, _, _, _, rfl, held⟩)
          (holds_iff.mpr ⟨_, _, _, _, rfl, mine⟩))
    | ended => trivial
  · intro row member
    obtain ⟨old, listed, named, -, kept⟩ := update_cases member
    obtain ⟨first, began, replays⟩ := serial.replayed old listed
    refine ⟨first, began, ?_⟩
    rw [named]
    rcases kept with ⟨others, same⟩ | ⟨concerned, changed⟩
    · rw [same]
      exact .passes replays others
    · obtain ⟨current, taking, same⟩ := List.mem_map.mp concerned
      obtain ⟨there, -, wanted⟩ := own.current current taking
      obtain rfl := serial.same_of_key there listed same
      rw [changed]
      apply Replays.takes replays rfl taking _ wanted
      intro other also again
      exact serial.same_of_key (own.current other also).1 there again
  · intro commit logged row taking
    change key row ∈ List.map key (update key rank change call taken table.rows)
    rw [map_key_update]
    rcases List.mem_append.mp logged with before | last
    · exact serial.logged commit before row taking
    · rw [List.mem_singleton.mp last] at taking
      exact List.mem_map_of_mem (own.current row taking).1

theorem onward (separates : ∀ first second : ρ, rank first = rank second → key first = key second)
    (serial : table.Serial change begun) {event : RowEvent γ ρ}
    (new : ∀ row, event = .inserts row → begun row) (taken : table.step key rank change event = some next) :
    next.Serial change begun := by
  cases event with
  | inserts row =>
    simp only [step] at taken
    split_ifs at taken with known
    · cases taken
      exact serial
    · cases taken
      exact serial.inserts known (new row rfl)
  | begins call =>
    cases taken
    have begins : Selects change table.rows call (LockedTable.snapshot key rank change call table.rows) [] [] :=
      Selects.begins separates serial.unique
    refine ⟨serial.unique, ?_, ?_, serial.replayed, serial.logged⟩
    · intro id other there
      rcases getElem?_append_singleton_cases there with same | old
      · rw [same]
        exact begins
      · exact serial.sound id other old
    · intro one two oneCall twoCall name thereOne thereTwo heldOne heldTwo
      rcases getElem?_append_singleton_cases thereOne with same | oldOne
      · rw [same] at heldOne
        cases heldOne
      · rcases getElem?_append_singleton_cases thereTwo with same | oldTwo
        · rw [same] at heldTwo
          cases heldTwo
        · exact serial.apart one two oneCall twoCall name oldOne oldTwo heldOne heldTwo
  | locks id =>
    simp only [step] at taken
    split at taken
    next call name rest locked old here =>
      split_ifs at taken with held
      split at taken
      next row found =>
        cases taken
        have there := List.mem_of_find?_eq_some found
        have named : key row = name := by simpa using List.find?_some found
        have selects : Selects change table.rows call (name :: rest) locked old := serial.sound id _ here
        have sound : RowCall.Sound change table.rows (.locking call rest (locked ++ [name])
            (if (change call).wants row then old ++ [row] else old)) := selects.locks there named
        apply serial.moves here sound
        intro other locks
        obtain ⟨_, _, _, _, same, member⟩ := holds_iff.mp locks
        cases same
        rcases List.mem_append.mp member with before | last
        · exact Or.inl (holds_iff.mpr ⟨_, _, _, _, rfl, before⟩)
        · rw [List.mem_singleton.mp last]
          right
          intro third thirdCall thirdThere
          rw [Bool.not_eq_true, List.any_eq_false] at held
          rw [← Bool.not_eq_true]
          exact held thirdCall (List.mem_of_getElem? thirdThere)
      next => cases taken
    next => cases taken
  | commits id =>
    simp only [step] at taken
    split at taken
    next call locked old here =>
      cases taken
      exact serial.commits here
    next => cases taken
  | aborts id =>
    simp only [step] at taken
    split at taken
    next call rest locked old here =>
      cases taken
      exact serial.ends here
    next => cases taken

theorem reached (separates : ∀ first second : ρ, rank first = rank second → key first = key second)
    {allowed : LockedTable γ ρ κ → RowEvent γ ρ → Prop}
    (new : ∀ table row, allowed table (.inserts row) → begun row) {start : LockedTable γ ρ κ}
    (serial : start.Serial change begun) (reaches : Reaches (step key rank change) allowed start table) :
    table.Serial change begun := by
  apply reaches.invariant serial
  intro state event next before permitted taken
  exact before.onward separates (fun row same => new state row (same ▸ permitted)) taken

/-! ### Nobody waits in a circle -/

/-- The transaction that waits for the lock of the row with the greatest rank waits for nobody: a
holder of it would still have to lock a greater one. -/
theorem progresses (serial : table.Serial change begun) {id : Nat} {call : γ} {rest locked : List κ} {taken : List ρ}
    (here : table.calls[id]? = some (.locking call rest locked taken)) :
    ∃ other, (table.step key rank change (.locks other)).isSome = true ∨
      (table.step key rank change (.commits other)).isSome = true := by
  classical
  by_contra stuck
  -- a call that nothing is left to lock for could commit
  have awaits : ∀ {other : Nat} {kind : γ} {remaining held : List κ} {chosen : List ρ},
      table.calls[other]? = some (.locking kind remaining held chosen) →
        ∃ row ∈ table.rows, ∃ later, remaining = key row :: later := by
    intro other kind remaining held chosen there
    cases remaining with
    | nil =>
      exfalso
      apply stuck
      refine ⟨other, Or.inr ?_⟩
      simp only [step, there]
      rfl
    | cons name later =>
      have sound : Selects change table.rows kind (name :: later) held chosen := serial.sound other _ there
      have known := sound.present name (List.mem_append_right _ List.mem_cons_self)
      obtain ⟨row, listed, named⟩ := List.mem_map.mp known
      exact ⟨row, listed, later, by rw [named]⟩
  let awaited := table.rows.toFinset.filter fun row => ∃ (other : Nat) (kind : γ) (later held : List κ) (chosen : List ρ),
    table.calls[other]? = some (.locking kind (key row :: later) held chosen)
  have some_awaited : awaited.Nonempty := by
    obtain ⟨row, listed, later, same⟩ := awaits here
    rw [same] at here
    exact ⟨row, Finset.mem_filter.mpr ⟨List.mem_toFinset.mpr listed, id, call, later, locked, taken, here⟩⟩
  obtain ⟨row, member, greatest⟩ := Finset.exists_max_image awaited rank some_awaited
  obtain ⟨listed, other, kind, later, held, chosen, there⟩ := Finset.mem_filter.mp member
  rw [List.mem_toFinset] at listed
  have taken_by : table.calls.any (RowCall.holds (key row)) = true := by
    by_contra free
    apply stuck
    have found : ∃ other, table.rows.find? (fun other => key other = key row) = some other := by
      rw [← Option.isSome_iff_exists, List.find?_isSome]
      exact ⟨row, listed, decide_eq_true rfl⟩
    obtain ⟨present, found⟩ := found
    refine ⟨other, Or.inl ?_⟩
    simp only [step, there, found, if_neg free]
    rfl
  obtain ⟨holder, holding, holds⟩ := List.any_eq_true.mp taken_by
  obtain ⟨holdingKind, remaining, holderLocked, holderTaken, rfl, locks⟩ := holds_iff.mp holds
  obtain ⟨third, thirdThere⟩ := List.getElem?_of_mem holding
  obtain ⟨upper, upperListed, more, same⟩ := awaits thirdThere
  rw [same] at thirdThere
  have sound : Selects change table.rows holdingKind (key upper :: more) holderLocked holderTaken :=
    serial.sound third _ thirdThere
  have ordered := (List.pairwise_append.mp sound.ascending).2.2 (key row) locks (key upper) List.mem_cons_self
    row listed upper upperListed rfl rfl
  have bound : rank upper ≤ rank row := by
    apply greatest
    exact Finset.mem_filter.mpr ⟨List.mem_toFinset.mpr upperListed, third, holdingKind, more, holderLocked,
      holderTaken, thirdThere⟩
  exact absurd ordered (not_lt.mpr bound)

end LockedTable.Serial

end Serial

end TelemetryFabric.Library
