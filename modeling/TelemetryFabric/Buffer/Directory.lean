import TelemetryFabric.Buffer.Format
import TelemetryFabric.Library.OrderedMap
import TelemetryFabric.Library.Text

/-!
The directory a disk queue lives in. Segment files are kept by id, in the order
`segment_ids` lists them; the quarantined copies, their reason files, the cursor
file and its temporary are the other files the queue writes there. Every name is
one the queue itself forms.
-/

namespace TelemetryFabric.Buffer
open Library

/-- File offsets are signed 64-bit numbers, so no file grows past them. -/
def maxFileLen : Nat := 2 ^ 63 - 1

structure SegmentFile where
  bytes : Bytes
  fits : bytes.length ≤ maxFileLen
  deriving DecidableEq

namespace SegmentFile

def empty : SegmentFile := ⟨[], Nat.zero_le _⟩

def len (file : SegmentFile) : Nat := file.bytes.length

def append? (file : SegmentFile) (more : Bytes) : Option SegmentFile :=
  if fits : (file.bytes ++ more).length ≤ maxFileLen then some ⟨file.bytes ++ more, fits⟩ else none

end SegmentFile

structure Cursor where
  segmentId : Nat
  offset : Nat
  deriving DecidableEq, Repr

structure CorruptFile where
  id : Nat
  suffix : Nat
  bytes : Bytes
  deriving DecidableEq, Repr

structure ReasonFile where
  id : Nat
  suffix : Nat
  text : String
  deriving DecidableEq, Repr

structure Directory where
  path : String
  segments : OrderedMap Nat SegmentFile
  corrupt : List CorruptFile
  reasons : List ReasonFile
  cursor : Option (List Char)
  cursorTmp : Option (List Char)
  deriving DecidableEq

/-- `segment_path`, as the text that error messages show. -/
def segmentPath (dir : Directory) (id : Nat) : String :=
  let digits := toString id
  dir.path ++ "/" ++ String.ofList (List.replicate (20 - digits.length) '0') ++ digits ++ ".segment"

namespace Directory

def fresh (path : String) : Directory := ⟨path, .empty, [], [], none, none⟩

/-- `File::create`: an existing file is truncated. -/
def createSegment (dir : Directory) (id : Nat) : Directory :=
  { dir with segments := dir.segments.insert id .empty }

/-- Opening for append creates a missing file and keeps an existing one. -/
def openSegment (dir : Directory) (id : Nat) : Directory :=
  { dir with segments := dir.segments.insert id ((dir.segments.find? id).getD .empty) }

def appendSegment? (dir : Directory) (id : Nat) (more : Bytes) : Option Directory := do
  let file ← ((dir.segments.find? id).getD .empty).append? more
  some { dir with segments := dir.segments.insert id file }

def removeSegment (dir : Directory) (id : Nat) : Directory :=
  { dir with segments := dir.segments.erase id }

def renameCorrupt (dir : Directory) (id suffix : Nat) : Directory :=
  match dir.segments.find? id with
  | none => dir
  | some file =>
      { dir with
        segments := dir.segments.erase id
        corrupt := dir.corrupt ++ [⟨id, suffix, file.bytes⟩] }

def writeReason (dir : Directory) (id suffix : Nat) (text : String) : Directory :=
  { dir with
    reasons := dir.reasons.filter (fun file => ¬(file.id = id ∧ file.suffix = suffix)) ++
      [⟨id, suffix, text⟩] }

def writeCursorTmp (dir : Directory) (text : List Char) : Directory :=
  { dir with cursorTmp := some text }

def renameCursorTmp (dir : Directory) : Directory :=
  { dir with cursor := dir.cursorTmp, cursorTmp := none }

end Directory

/-- `corrupt_segment_path`: the first of a thousand suffixes not yet taken. -/
def corruptSegmentSuffix (dir : Directory) (id : Nat) : Option Nat :=
  (List.range 1000).find? fun suffix =>
    dir.corrupt.all fun file => ¬(file.id = id ∧ file.suffix = suffix)

def totalSegmentBytes (dir : Directory) (segments : List Nat) : Nat :=
  (segments.map fun id => ((dir.segments.find? id).getD .empty).len).sum

/-- The line `persist_cursor` writes. -/
def cursorText (cursor : Cursor) : List Char :=
  decimal cursor.segmentId ++ ' ' :: (decimal cursor.offset ++ ['\n'])

def parseCursor (content : List Char) : Option Cursor :=
  match splitWhitespace content with
  | [] => none
  | [_] => none
  | segmentId :: offset :: _ => do
      let segmentId ← parseU64 segmentId
      let offset ← parseU64 offset
      some ⟨segmentId, offset⟩

def readCursor (dir : Directory) : Option Cursor :=
  match dir.cursor with
  | none => none
  | some content => parseCursor content

/-- What the queue persists is what the next process reads, for cursors of `u64` fields. -/
theorem parseCursor_cursorText {cursor : Cursor} (id : cursor.segmentId ≤ u64Max)
    (offset : cursor.offset ≤ u64Max) : parseCursor (cursorText cursor) = some cursor := by
  have idBound : cursor.segmentId < 2 ^ 64 := Nat.lt_of_le_sub_one (by decide) id
  have offsetBound : cursor.offset < 2 ^ 64 := Nat.lt_of_le_sub_one (by decide) offset
  unfold parseCursor cursorText
  rw [splitWhitespace_pair]
  simp [parseU64_decimal idBound, parseU64_decimal offsetBound]

theorem SegmentFile.append?_eq_some {file next : SegmentFile} {more : Bytes}
    (written : file.append? more = some next) : next.bytes = file.bytes ++ more := by
  unfold SegmentFile.append? at written
  split_ifs at written
  cases written
  rfl

/-- How often a segment id has been renamed aside. -/
def Directory.quarantines (dir : Directory) (id : Nat) : Nat :=
  (dir.corrupt.filter (fun file => file.id = id)).length

theorem corruptSegmentSuffix_of_few {dir : Directory} {id : Nat} (few : dir.quarantines id < 1000) :
    ∃ suffix, corruptSegmentSuffix dir id = some suffix := by
  by_contra taken
  have none : corruptSegmentSuffix dir id = none :=
    Option.eq_none_iff_forall_not_mem.mpr fun suffix found => taken ⟨suffix, found⟩
  have all : List.range 1000 ⊆ (dir.corrupt.filter (fun file => file.id = id)).map CorruptFile.suffix := by
    intro suffix member
    have used := List.find?_eq_none.mp none suffix member
    simp only [List.all_eq_true, not_forall, decide_not, Bool.not_eq_true', decide_eq_false_iff_not,
      not_not] at used
    obtain ⟨file, inside, same, rfl⟩ := used
    exact List.mem_map_of_mem (List.mem_filter.mpr ⟨inside, by simpa using same⟩)
  have count := List.nodup_range.length_le_of_subset all
  rw [List.length_range, List.length_map] at count
  exact absurd few (not_lt.mpr count)

end TelemetryFabric.Buffer
