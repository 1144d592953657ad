import Mathlib.Data.List.Nodup

/-! Rows inserted into a table by their key. Where the key is taken, either the row that is there
stays, and inserting the same rows again changes nothing, or it is updated. -/

namespace TelemetryFabric.Library

variable {ρ κ : Type}

theorem nodup_append_row {key : ρ → κ} {rows : List ρ} {row : ρ} (nodup : (rows.map key).Nodup)
    (fresh : key row ∉ rows.map key) : ((rows ++ [row]).map key).Nodup := by
  rw [List.map_append]
  apply List.nodup_append.mpr
  refine ⟨nodup, List.nodup_singleton _, ?_⟩
  intro old before new last same
  rw [List.mem_singleton.mp last] at same
  exact fresh (same ▸ before)

variable [DecidableEq κ] (key : ρ → κ)

/-- `INSERT`, with nothing done on a conflict. -/
def insertNew (rows : List ρ) (row : ρ) : List ρ :=
  if key row ∈ rows.map key then rows else rows ++ [row]

def insertAllNew (rows new : List ρ) : List ρ := new.foldl (insertNew key) rows

/-- What is there stays, and some of the new rows come behind it. -/
theorem exists_kept (rows new : List ρ) :
    ∃ kept, insertAllNew key rows new = rows ++ kept ∧ kept.Sublist new := by
  induction new generalizing rows with
  | nil => exact ⟨[], (List.append_nil rows).symm, List.Sublist.refl _⟩
  | cons next rest ih =>
    obtain ⟨kept, grown, among⟩ := ih (insertNew key rows next)
    change ∃ kept, insertAllNew key (insertNew key rows next) rest = rows ++ kept ∧ _
    rw [grown]
    unfold insertNew
    split_ifs with taken
    · exact ⟨kept, rfl, among.cons next⟩
    · exact ⟨next :: kept, List.append_assoc .., among.cons_cons next⟩

variable {key}

theorem mem_insertAllNew_of_mem {rows new : List ρ} {row : ρ} (member : row ∈ rows) :
    row ∈ insertAllNew key rows new := by
  obtain ⟨kept, grown, -⟩ := exists_kept key rows new
  rw [grown]
  exact List.mem_append_left _ member

/-- Every row of the table was there before or has been inserted. -/
theorem mem_or_mem_of_insertAllNew {rows new : List ρ} {row : ρ} (member : row ∈ insertAllNew key rows new) :
    row ∈ rows ∨ row ∈ new := by
  obtain ⟨kept, grown, among⟩ := exists_kept key rows new
  rw [grown] at member
  exact (List.mem_append.mp member).imp_right among.mem

theorem key_mem_insertNew (rows : List ρ) (row : ρ) : key row ∈ (insertNew key rows row).map key := by
  unfold insertNew
  split_ifs with taken
  · exact taken
  · exact List.mem_map_of_mem (List.mem_append_right _ List.mem_cons_self)

/-- Some row of the table has the key of an inserted one. -/
theorem key_mem_insertAllNew {rows new : List ρ} {row : ρ} (member : row ∈ new) :
    key row ∈ (insertAllNew key rows new).map key := by
  induction new generalizing rows with
  | nil => cases member
  | cons next rest ih =>
    rcases List.mem_cons.mp member with same | later
    · rw [same]
      have here : key next ∈ (insertNew key rows next).map key := key_mem_insertNew rows next
      obtain ⟨kept, inside, equal⟩ := List.mem_map.mp here
      have still : kept ∈ insertAllNew key (insertNew key rows next) rest := mem_insertAllNew_of_mem inside
      exact List.mem_map.mpr ⟨kept, still, equal⟩
    · exact ih later

theorem insertAllNew_of_taken {rows new : List ρ} (taken : ∀ row ∈ new, key row ∈ rows.map key) :
    insertAllNew key rows new = rows := by
  induction new with
  | nil => rfl
  | cons next rest ih =>
    have same : insertNew key rows next = rows := if_pos (taken next List.mem_cons_self)
    change insertAllNew key (insertNew key rows next) rest = rows
    rw [same]
    exact ih fun row member => taken row (List.mem_cons_of_mem _ member)

/-- Inserting again changes nothing. -/
theorem insertAllNew_again (rows new : List ρ) :
    insertAllNew key (insertAllNew key rows new) new = insertAllNew key rows new :=
  insertAllNew_of_taken fun _ member => key_mem_insertAllNew member

theorem nodup_insertAllNew {rows new : List ρ} (nodup : (rows.map key).Nodup) :
    ((insertAllNew key rows new).map key).Nodup := by
  induction new generalizing rows with
  | nil => exact nodup
  | cons next rest ih =>
    apply ih
    unfold insertNew
    split_ifs with taken
    · exact nodup
    · exact nodup_append_row nodup taken

theorem length_insertAllNew_le (rows new : List ρ) :
    (insertAllNew key rows new).length ≤ rows.length + new.length := by
  obtain ⟨kept, grown, among⟩ := exists_kept key rows new
  rw [grown, List.length_append]
  exact Nat.add_le_add_left among.length_le _

/-- All rows go in exactly when their keys are new and pairwise different. -/
theorem length_insertAllNew_iff {rows new : List ρ} (nodup : (rows.map key).Nodup) :
    (insertAllNew key rows new).length = rows.length + new.length ↔ ((rows ++ new).map key).Nodup := by
  induction new generalizing rows with
  | nil => simpa [insertAllNew] using nodup
  | cons next rest ih =>
    change (insertAllNew key (insertNew key rows next) rest).length = _ ↔ _
    by_cases taken : key next ∈ rows.map key
    · have bound : (insertAllNew key rows rest).length ≤ rows.length + rest.length :=
        length_insertAllNew_le rows rest
      have again : ¬ ((rows ++ next :: rest).map key).Nodup := by
        intro apart
        rw [List.map_append] at apart
        exact (List.nodup_append.mp apart).2.2 _ taken _ (by simp) rfl
      rw [insertNew, if_pos taken, List.length_cons]
      exact iff_of_false (by omega) again
    · have grown := nodup_append_row nodup taken
      have split : rows ++ next :: rest = rows ++ [next] ++ rest := by rw [List.append_assoc]; rfl
      have later := ih grown
      rw [List.length_append, List.length_singleton] at later
      rw [insertNew, if_neg taken, List.length_cons, split, ← later]
      omega

theorem insertAllNew_of_nodup {rows new : List ρ} (apart : ((rows ++ new).map key).Nodup) :
    insertAllNew key rows new = rows ++ new := by
  induction new generalizing rows with
  | nil => exact (List.append_nil rows).symm
  | cons next rest ih =>
    have split : rows ++ next :: rest = rows ++ [next] ++ rest := by rw [List.append_assoc]; rfl
    have fresh : key next ∉ rows.map key := by
      intro taken
      rw [List.map_append] at apart
      exact (List.nodup_append.mp apart).2.2 _ taken _ (by simp) rfl
    change insertAllNew key (insertNew key rows next) rest = _
    rw [insertNew, if_neg fresh, split]
    rw [split] at apart
    exact ih apart

/-- All new rows are in the table exactly when no two different rows, old or new, share the key of a
new one. -/
theorem forall_mem_insertAllNew_iff {rows new : List ρ} (nodup : (rows.map key).Nodup) :
    (∀ row ∈ new, row ∈ insertAllNew key rows new) ↔
      ∀ row ∈ new, ∀ other ∈ rows ++ new, key other = key row → other = row := by
  constructor
  · intro all row member other inside same
    have kept : other ∈ insertAllNew key rows new := by
      rcases List.mem_append.mp inside with old | fresh
      · exact mem_insertAllNew_of_mem old
      · exact all other fresh
    exact List.inj_on_of_nodup_map (nodup_insertAllNew nodup) kept (all row member) same
  · intro apart row member
    obtain ⟨other, inside, same⟩ := List.mem_map.mp
      (show key row ∈ (insertAllNew key rows new).map key from key_mem_insertAllNew member)
    have known := List.mem_append.mpr (mem_or_mem_of_insertAllNew inside)
    rw [apart row member other known same] at inside
    exact inside

/-! ### Upserts -/

section Upserts

variable (key) (update : ρ → ρ → ρ)

/-- `INSERT`, with the row that is there updated on a conflict. -/
def upsert (rows : List ρ) (row : ρ) : List ρ :=
  if key row ∈ rows.map key then rows.map fun old => if key old = key row then update old row else old
  else rows ++ [row]

/-- One statement with all rows; there is no table where it would touch a row a second time. -/
def upsertAll (rows new : List ρ) : Option (List ρ) :=
  if (new.map key).Nodup then some (new.foldl (upsert key update) rows) else none

variable {key update}

theorem foldl_upsert_of_nodup {rows new : List ρ} (apart : ((rows ++ new).map key).Nodup) :
    new.foldl (upsert key update) rows = rows ++ new := by
  induction new generalizing rows with
  | nil => exact (List.append_nil rows).symm
  | cons next rest ih =>
    have split : rows ++ next :: rest = rows ++ [next] ++ rest := by rw [List.append_assoc]; rfl
    have fresh : key next ∉ rows.map key := by
      intro taken
      rw [List.map_append] at apart
      exact (List.nodup_append.mp apart).2.2 _ taken _ (by simp) rfl
    rw [List.foldl_cons, upsert, if_neg fresh, split]
    rw [split] at apart
    exact ih apart

/-- An empty table takes the rows as they are. -/
theorem upsertAll_nil_eq_some {new rows : List ρ} :
    upsertAll key update [] new = some rows ↔ (new.map key).Nodup ∧ rows = new := by
  unfold upsertAll
  split_ifs with apart
  · rw [foldl_upsert_of_nodup (by simpa using apart), List.nil_append, Option.some.injEq]
    exact ⟨fun same => ⟨apart, same.symm⟩, fun both => both.2.symm⟩
  · exact iff_of_false (by simp) fun both => apart both.1

end Upserts

end TelemetryFabric.Library
