import TelemetryFabric.Library.LittleEndian
import TelemetryFabric.Library.Text
import Mathlib.Logic.Nontrivial.Defs

/-!
The files the stores of the control plane keep their state in. New data is written to a
temporary file, the old file is removed and the temporary one is renamed. Each of these calls
may fail, and the system may stop before any of them.
-/

namespace TelemetryFabric.ControlPlane
open Library

/-! ### Files -/

/-- The regular files of the storage directory. -/
abbrev Files := String → Option Bytes

def Files.put (files : Files) (name : String) (content : Option Bytes) : Files :=
  fun other => if other = name then content else files other

@[simp] theorem Files.put_self (files : Files) (name : String) (content : Option Bytes) :
    files.put name content name = content :=
  if_pos rfl

theorem Files.put_other (files : Files) {name other : String} (content : Option Bytes) (apart : other ≠ name) :
    files.put name content other = files other :=
  if_neg apart

/-- What becomes of one call: it is done, it returns an error, or the system stops before it. -/
inductive Outcome where
  | done
  | failed
  | stopped
  deriving DecidableEq

/-- The outcomes of the calls of one `persist`, and what a failed write leaves behind. -/
structure Faults where
  mkdir : Outcome
  write : Outcome
  leftover : Option Bytes
  remove : Outcome
  rename : Outcome
  cleanup : Outcome

def Faults.none : Faults := ⟨.done, .done, .none, .done, .done, .done⟩

/-- How a call of `persist` ends. -/
inductive Ending where
  | persisted
  | raised
  | stopped
  deriving DecidableEq

/-! ### The format -/

def formatVersion : Nat := 1

/-- `%{version: version, data: data}`. -/
structure Persisted (Term : Type) where
  version : Nat
  data : Term

/-- `term_to_binary` and `binary_to_term`; the latter finds no such map, or raises. -/
structure TermFormat (Term : Type) where
  toBinary : Persisted Term → Bytes
  ofBinary : Bytes → Option (Persisted Term)

/-- What is written in the current version is read back. -/
def TermFormat.Lawful {Term : Type} (format : TermFormat Term) : Prop :=
  ∀ data, format.ofBinary (format.toBinary ⟨formatVersion, data⟩) = some ⟨formatVersion, data⟩

section StateFile

variable {Term : Type} (format : TermFormat Term)

inductive LoadError where
  | undecodable
  deriving DecidableEq

def decode (binary : Bytes) : Except LoadError Term :=
  match format.ofBinary binary with
  | some persisted => if persisted.version = formatVersion then .ok persisted.data else .error .undecodable
  | none => .error .undecodable

/-- The data of a state file, or the default where there is no path or no file. -/
def load (path : Option String) (default : Term) (files : Files) : Except LoadError Term :=
  match path with
  | none => .ok default
  | some file =>
      match files file with
      | some binary => decode format binary
      | none => .ok default

def temporaryName (file : String) (unique : Nat) : String :=
  "." ++ file ++ ".tmp-" ++ String.ofList (decimal unique)

/-- The error branch: the temporary file is removed if it can be. -/
def abandon (faults : Faults) (temporary : String) (files : Files) : Files × Ending :=
  match faults.cleanup with
  | .done => (files.put temporary none, .raised)
  | .failed => (files, .raised)
  | .stopped => (files, .stopped)

/-- The temporary file takes the place of the state file, which is removed before. -/
def replace (faults : Faults) (temporary file : String) (files : Files) : Files × Ending :=
  let renamed (files : Files) : Files × Ending :=
    match faults.rename with
    | .done => ((files.put file (files temporary)).put temporary none, .persisted)
    | .failed => abandon faults temporary files
    | .stopped => (files, .stopped)
  match faults.remove with
  | .done => renamed (files.put file none)
  | .failed => renamed files
  | .stopped => (files, .stopped)

def persist (faults : Faults) (unique : Nat) (path : Option String) (data : Term) (files : Files) :
    Files × Ending :=
  match path with
  | none => (files, .persisted)
  | some file =>
      let temporary := temporaryName file unique
      let payload := format.toBinary ⟨formatVersion, data⟩
      match faults.mkdir with
      | .stopped => (files, .stopped)
      | .failed => (files, .raised)
      | .done =>
          match faults.write with
          | .done => replace faults temporary file (files.put temporary (some payload))
          | .failed => abandon faults temporary (files.put temporary faults.leftover)
          | .stopped => (files, .stopped)

/-- Whatever the default, the data is loaded. -/
def Holds (files : Files) (file : String) (data : Term) : Prop :=
  ∀ default, load format (some file) default files = .ok data

end StateFile

/-! ### Interruptions -/

theorem temporaryName_ne (file : String) (unique : Nat) : file ≠ temporaryName file unique := by
  intro same
  have lengths := congrArg String.length same
  simp only [temporaryName, String.length_append] at lengths
  have dot : ".".length = 1 := rfl
  omega

section Interruptions

variable {Term : Type} {format : TermFormat Term}

theorem load_of_some {files : Files} {file : String} {binary : Bytes} (content : files file = some binary)
    (default : Term) : load format (some file) default files = decode format binary := by
  simp only [load, content]

theorem load_of_none {files : Files} {file : String} (absent : files file = none) (default : Term) :
    load format (some file) default files = .ok default := by
  simp only [load, absent]

theorem holds_iff [Nontrivial Term] {files : Files} {file : String} {data : Term} :
    Holds format files file data ↔ ∃ binary, files file = some binary ∧ decode format binary = .ok data := by
  unfold Holds
  cases found : files file with
  | some binary => simp [load_of_some found]
  | none =>
    -- with another default, the other default is loaded
    obtain ⟨other, differs⟩ := exists_ne data
    simp only [load_of_none found, reduceCtorEq, false_and, exists_false, iff_false, not_forall]
    exact ⟨other, by simpa using differs⟩

theorem abandon_file (faults : Faults) {temporary file : String} (apart : file ≠ temporary) (files : Files) :
    (abandon faults temporary files).1 file = files file := by
  unfold abandon
  cases faults.cleanup with
  | done => exact files.put_other none apart
  | failed => rfl
  | stopped => rfl

/-- What a replacement leaves under the name of the state file. -/
theorem replace_file (faults : Faults) {temporary file : String} (apart : file ≠ temporary) (files : Files) :
    (replace faults temporary file files).1 file =
      if faults.remove = .stopped then files file
      else if faults.rename = .done then files temporary
      else if faults.remove = .done then none else files file := by
  unfold replace
  cases faults.remove <;> cases faults.rename <;>
    simp [abandon_file faults apart, Files.put_other _ _ apart, Files.put_other _ _ apart.symm]

theorem persist_file (faults : Faults) (unique : Nat) (file : String) (data : Term) (files : Files) :
    (persist format faults unique (some file) data files).1 file =
      if faults.mkdir = .done ∧ faults.write = .done ∧ faults.remove ≠ .stopped then
        if faults.rename = .done then some (format.toBinary ⟨formatVersion, data⟩)
        else if faults.remove = .done then none else files file
      else files file := by
  have apart := temporaryName_ne file unique
  unfold persist
  cases faults.mkdir <;> cases faults.write <;>
    simp [abandon_file faults apart, replace_file faults apart, Files.put_other _ _ apart]

/-- Only the state file and the temporary one are touched. -/
theorem persist_other (faults : Faults) (unique : Nat) (file : String) (data : Term) (files : Files) {other : String}
    (apart : other ≠ file) (aside : other ≠ temporaryName file unique) :
    (persist format faults unique (some file) data files).1 other = files other := by
  unfold persist replace
  cases faults.mkdir <;> cases faults.write <;> cases faults.remove <;> cases faults.rename <;>
    simp [abandon_file faults aside, Files.put_other _ _ apart, Files.put_other _ _ aside]

theorem decode_toBinary (lawful : format.Lawful) (data : Term) :
    decode format (format.toBinary ⟨formatVersion, data⟩) = .ok data := by
  simp [decode, lawful data]

/-- Undisturbed, what is persisted is loaded. -/
theorem load_persist (lawful : format.Lawful) (unique : Nat) (file : String) (default data : Term) (files : Files) :
    load format (some file) default (persist format Faults.none unique (some file) data files).1 = .ok data := by
  have written : (persist format Faults.none unique (some file) data files).1 file =
      some (format.toBinary ⟨formatVersion, data⟩) := by
    rw [persist_file]
    rfl
  rw [load_of_some written, decode_toBinary lawful]

/-- An interrupted call leaves the old or the new data exactly when it is not interrupted between
the removal of the old file and the renaming of the new one. -/
theorem replacement_atomic_iff [Nontrivial Term] (lawful : format.Lawful) (faults : Faults) (unique : Nat)
    (file : String) (files : Files) (old new : Term) (stored : Holds format files file old) :
    (Holds format (persist format faults unique (some file) new files).1 file old ∨
        Holds format (persist format faults unique (some file) new files).1 file new) ↔
      (faults.mkdir = .done → faults.write = .done → faults.remove = .done → faults.rename = .done) := by
  obtain ⟨binary, content, decoded⟩ := holds_iff.mp stored
  rw [holds_iff, holds_iff, persist_file, content]
  split_ifs with reached renamed removed
  · -- the new file is in place
    exact ⟨fun _ _ _ _ => renamed, fun _ => .inr ⟨_, rfl, decode_toBinary lawful new⟩⟩
  · -- the old file is gone and nothing took its place
    constructor
    · rintro (⟨_, absent, _⟩ | ⟨_, absent, _⟩)
      · cases absent
      · cases absent
    · intro uninterrupted
      exact absurd (uninterrupted reached.1 reached.2.1 removed) renamed
  · exact ⟨fun _ _ _ done => absurd done removed, fun _ => .inl ⟨binary, rfl, decoded⟩⟩
  · constructor
    · intro _ made written removed
      refine absurd ⟨made, written, ?_⟩ reached
      rw [removed]
      decide
    · exact fun _ => .inl ⟨binary, rfl, decoded⟩

/-- Small integers in the external term format. -/
def smallIntegers : TermFormat UInt8 where
  toBinary persisted := [131, 116, 0, 0, 0, 2, 119, 4, 100, 97, 116, 97, 97, persisted.data,
    119, 7, 118, 101, 114, 115, 105, 111, 110, 97, UInt8.ofNat persisted.version]
  ofBinary
    | [131, 116, 0, 0, 0, 2, 119, 4, 100, 97, 116, 97, 97, data,
        119, 7, 118, 101, 114, 115, 105, 111, 110, 97, version] => some ⟨version.toNat, data⟩
    | _ => none

theorem smallIntegers_lawful : smallIntegers.Lawful := fun _ => rfl

/-- A directory with the one file, holding the number. -/
def storedNumber (data : UInt8) : Files :=
  Files.put (fun _ => none) "pipelines.term" (some (smallIntegers.toBinary ⟨formatVersion, data⟩))

theorem replacement_atomic_iff_undisturbed :
    Holds smallIntegers (storedNumber 3) "pipelines.term" 3 ∧
    ((Holds smallIntegers (persist smallIntegers Faults.none 1 (some "pipelines.term") 4 (storedNumber 3)).1
          "pipelines.term" 3 ∨
        Holds smallIntegers (persist smallIntegers Faults.none 1 (some "pipelines.term") 4 (storedNumber 3)).1
          "pipelines.term" 4) ↔
      (Faults.none.mkdir = .done → Faults.none.write = .done → Faults.none.remove = .done →
        Faults.none.rename = .done)) :=
  have stored : Holds smallIntegers (storedNumber 3) "pipelines.term" 3 := fun _ => rfl
  have : Nontrivial UInt8 := ⟨0, 1, by decide⟩
  ⟨stored, replacement_atomic_iff smallIntegers_lawful Faults.none 1 "pipelines.term" (storedNumber 3) 3 4 stored⟩

/-- A stop between the removal and the renaming leaves neither. -/
theorem replacement_interrupted :
    let faults : Faults := ⟨.done, .done, none, .done, .stopped, .done⟩
    let after := (persist smallIntegers faults 1 (some "pipelines.term") 4 (storedNumber 3)).1
    Holds smallIntegers (storedNumber 3) "pipelines.term" 3 ∧
    load smallIntegers (some "pipelines.term") 0 after = .ok 0 ∧
    ¬(Holds smallIntegers after "pipelines.term" 3 ∨ Holds smallIntegers after "pipelines.term" 4) := by
  refine ⟨fun _ => rfl, rfl, ?_⟩
  rintro (old | new)
  · exact absurd (old 0) (by decide)
  · exact absurd (new 0) (by decide)

end Interruptions

end TelemetryFabric.ControlPlane
