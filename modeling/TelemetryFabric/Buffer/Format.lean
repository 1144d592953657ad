import TelemetryFabric.Library.LittleEndian

/-!
The record format of a queue segment: a four-byte payload length, a four-byte
FNV-1a checksum and the payload. `parseRecord` is what `read_step_at` makes of the
bytes behind the cursor; `scan` repeats it to the end of a file.
-/

namespace TelemetryFabric.Buffer
open Library

def recordHeaderLen : Nat := 8

def checksum32 (payload : Bytes) : UInt32 :=
  payload.foldl (fun hash byte => (hash ^^^ byte.toUInt32) * 0x01000193) 0x811c9dc5

/-- The bytes `enqueue` writes for one payload. -/
def frame (payload : Bytes) : Bytes :=
  littleEndian 4 payload.length ++ littleEndian 4 (checksum32 payload).toNat ++ payload

inductive Parsed where
  | endOfFile
  | truncated
  | mismatch
  | record (payload : Bytes)
  deriving DecidableEq, Repr

/-- Read one header and payload from the bytes behind the cursor. -/
def parseRecord (rest : Bytes) : Parsed :=
  if rest.length < recordHeaderLen then .endOfFile
  else
    let len := ofLittleEndian (rest.take 4)
    let expectedChecksum := ofLittleEndian ((rest.drop 4).take 4)
    let body := rest.drop recordHeaderLen
    if body.length < len then .truncated
    else if (checksum32 (body.take len)).toNat ≠ expectedChecksum then .mismatch
    else .record (body.take len)

/-- How the records of a file end: at its last byte, in less than a header, or at a
record the reader refuses. -/
inductive Tail where
  | clean
  | shortHeader
  | truncated
  | mismatch
  deriving DecidableEq, Repr

def Tail.bad : Tail → Bool
  | .clean | .shortHeader => false
  | .truncated | .mismatch => true

def scanFuel : Nat → Bytes → List Bytes × Tail
  | 0, _ => ([], .clean)
  | fuel + 1, rest =>
      match parseRecord rest with
      | .endOfFile => ([], if rest = [] then .clean else .shortHeader)
      | .truncated => ([], .truncated)
      | .mismatch => ([], .mismatch)
      | .record payload =>
          let later := scanFuel fuel (rest.drop (recordHeaderLen + payload.length))
          (payload :: later.1, later.2)

/-- The records a reader finds in a run of bytes, and how they end. -/
def scan (rest : Bytes) : List Bytes × Tail := scanFuel (rest.length + 1) rest

theorem parseRecord_eq_record {rest payload : Bytes} :
    parseRecord rest = .record payload ↔
      recordHeaderLen ≤ rest.length ∧
      ofLittleEndian (rest.take 4) ≤ (rest.drop recordHeaderLen).length ∧
      payload = (rest.drop recordHeaderLen).take (ofLittleEndian (rest.take 4)) ∧
      (checksum32 payload).toNat = ofLittleEndian ((rest.drop 4).take 4) := by
  simp only [parseRecord]
  constructor
  · intro found
    split_ifs at found with short cut wrong
    cases found
    exact ⟨not_lt.mp short, not_lt.mp cut, rfl, not_not.mp wrong⟩
  · rintro ⟨header, whole, rfl, sum⟩
    rw [if_neg (not_lt.mpr header), if_neg (not_lt.mpr whole), if_neg (not_not.mpr sum)]

theorem parseRecord_record_length {rest payload : Bytes} (found : parseRecord rest = .record payload) :
    recordHeaderLen + payload.length ≤ rest.length := by
  obtain ⟨header, whole, rfl, -⟩ := parseRecord_eq_record.mp found
  rw [List.length_take, List.length_drop]
  rw [List.length_drop] at whole
  omega

theorem scanFuel_stable (fuel other : Nat) (rest : Bytes) (first : rest.length < fuel)
    (second : rest.length < other) : scanFuel fuel rest = scanFuel other rest := by
  induction fuel generalizing rest other with
  | zero => omega
  | succ fuel ih =>
    cases other with
    | zero => omega
    | succ other =>
      simp only [scanFuel]
      cases found : parseRecord rest with
      | endOfFile => rfl
      | truncated => rfl
      | mismatch => rfl
      | record payload =>
        have bound := parseRecord_record_length found
        have shorter : (rest.drop (recordHeaderLen + payload.length)).length < rest.length := by
          simp only [recordHeaderLen, List.length_drop] at *
          omega
        dsimp only
        rw [ih other _ (by omega) (by omega)]

theorem scan_record {rest payload : Bytes} (found : parseRecord rest = .record payload) :
    scan rest = (payload :: (scan (rest.drop (recordHeaderLen + payload.length))).1,
      (scan (rest.drop (recordHeaderLen + payload.length))).2) := by
  have bound := parseRecord_record_length found
  have shorter : (rest.drop (recordHeaderLen + payload.length)).length < rest.length := by
    simp only [recordHeaderLen, List.length_drop] at *
    omega
  have steady := scanFuel_stable rest.length
    ((rest.drop (recordHeaderLen + payload.length)).length + 1)
    (rest.drop (recordHeaderLen + payload.length)) shorter (by omega)
  rw [scan, scanFuel, found]
  dsimp only
  rw [steady]
  rfl

theorem scan_endOfFile {rest : Bytes} (found : parseRecord rest = .endOfFile) :
    scan rest = ([], if rest = [] then .clean else .shortHeader) := by
  simp only [scan, scanFuel, found]

theorem scan_truncated {rest : Bytes} (found : parseRecord rest = .truncated) :
    scan rest = ([], .truncated) := by
  simp only [scan, scanFuel, found]

theorem scan_mismatch {rest : Bytes} (found : parseRecord rest = .mismatch) :
    scan rest = ([], .mismatch) := by
  simp only [scan, scanFuel, found]

@[simp] theorem scan_nil : scan [] = ([], .clean) := rfl

@[simp] theorem length_frame (payload : Bytes) :
    (frame payload).length = recordHeaderLen + payload.length := by
  simp only [frame, recordHeaderLen, List.length_append, length_littleEndian]

/-- A written record is read back, whatever follows it in the file. -/
theorem parseRecord_frame (payload rest : Bytes) (small : payload.length ≤ u32Max) :
    parseRecord (frame payload ++ rest) = .record payload := by
  have lenBound : payload.length < 256 ^ 4 := by
    simp only [u32Max] at small
    omega
  have sumBound : (checksum32 payload).toNat < 256 ^ 4 := (checksum32 payload).toNat_lt
  have len : ofLittleEndian ((frame payload ++ rest).take 4) = payload.length := by
    have head : (frame payload ++ rest).take 4 = littleEndian 4 payload.length := by
      simp [frame]
    rw [head, ofLittleEndian_littleEndian _ _ lenBound]
  have sum : ofLittleEndian (((frame payload ++ rest).drop 4).take 4) = (checksum32 payload).toNat := by
    have head : ((frame payload ++ rest).drop 4).take 4 = littleEndian 4 (checksum32 payload).toNat := by
      simp [frame]
    rw [head, ofLittleEndian_littleEndian _ _ sumBound]
  have body : (frame payload ++ rest).drop recordHeaderLen = payload ++ rest := by
    simp [frame, recordHeaderLen, List.drop_append]
  rw [parseRecord_eq_record, len, sum, body]
  refine ⟨?_, ?_, List.take_left.symm, rfl⟩
  · rw [List.length_append, length_frame]
    omega
  · rw [List.length_append]
    omega

theorem scan_frame (payload rest : Bytes) (small : payload.length ≤ u32Max) :
    scan (frame payload ++ rest) = (payload :: (scan rest).1, (scan rest).2) := by
  have behind : (frame payload ++ rest).drop (recordHeaderLen + payload.length) = rest := by
    rw [← length_frame, List.drop_left]
  rw [scan_record (parseRecord_frame payload rest small), behind]

/-- A record that is cut short gives the reader no record. -/
theorem scan_torn {payload piece : Bytes} (small : payload.length ≤ u32Max)
    (part : piece <+: frame payload) (proper : piece.length < (frame payload).length) :
    (scan piece).1 = [] := by
  by_cases header : piece.length < recordHeaderLen
  · have parsed : parseRecord piece = .endOfFile := by rw [parseRecord, if_pos header]
    rw [scan_endOfFile parsed]
  · obtain ⟨rest, whole⟩ := part
    have lenBound : payload.length < 256 ^ 4 := by
      simp only [u32Max] at small
      omega
    have size : 8 ≤ piece.length := not_lt.mp header
    have start : piece.take 4 = littleEndian 4 payload.length := by
      have same : (piece ++ rest).take 4 = piece.take 4 := List.take_append_of_le_length (by omega)
      rw [← same, whole]
      simp [frame]
    have parsed : parseRecord piece = .truncated := by
      have short : (piece.drop recordHeaderLen).length < ofLittleEndian (piece.take 4) := by
        rw [start, ofLittleEndian_littleEndian _ _ lenBound, List.length_drop]
        rw [length_frame] at proper
        simp only [recordHeaderLen] at *
        omega
      simp only [parseRecord]
      rw [if_neg header, if_pos short]
    rw [scan_truncated parsed]

/-- Bytes behind a record that parses do not change it. -/
theorem parseRecord_append {rest payload : Bytes} (more : Bytes)
    (found : parseRecord rest = .record payload) : parseRecord (rest ++ more) = .record payload := by
  obtain ⟨header, whole, body, sum⟩ := parseRecord_eq_record.mp found
  have size : 8 ≤ rest.length := header
  have four : (rest ++ more).take 4 = rest.take 4 := List.take_append_of_le_length (by omega)
  have eight : ((rest ++ more).drop 4).take 4 = (rest.drop 4).take 4 := by
    rw [List.drop_append_of_le_length (by omega),
      List.take_append_of_le_length (by rw [List.length_drop]; omega)]
  have behind : (rest ++ more).drop recordHeaderLen = rest.drop recordHeaderLen ++ more :=
    List.drop_append_of_le_length header
  rw [parseRecord_eq_record, four, eight, behind]
  refine ⟨?_, ?_, ?_, sum⟩
  · rw [List.length_append]
    omega
  · rw [List.length_append]
    omega
  · rw [List.take_append_of_le_length whole]
    exact body

/-- Records appended to a file that ends cleanly are found behind the old ones. -/
theorem scan_append {rest : Bytes} (more : Bytes) (clean : (scan rest).2 = .clean) :
    scan (rest ++ more) = ((scan rest).1 ++ (scan more).1, (scan more).2) := by
  induction size : rest.length using Nat.strong_induction_on generalizing rest with
  | _ bound ih =>
    cases found : parseRecord rest with
    | endOfFile =>
      rw [scan_endOfFile found] at clean
      have empty : rest = [] := by
        by_contra nonempty
        simp [nonempty] at clean
      simp [empty]
    | truncated => simp [scan_truncated found] at clean
    | mismatch => simp [scan_mismatch found] at clean
    | record payload =>
      have fits := parseRecord_record_length found
      have behind : (rest ++ more).drop (recordHeaderLen + payload.length) =
          rest.drop (recordHeaderLen + payload.length) ++ more :=
        List.drop_append_of_le_length fits
      have shorter : (rest.drop (recordHeaderLen + payload.length)).length < bound := by
        simp only [recordHeaderLen, List.length_drop] at *
        omega
      rw [scan_record found] at clean
      rw [scan_record (parseRecord_append more found), scan_record found, behind,
        ih _ shorter clean rfl]
      rfl

/-- An empty record found behind a header was there before anything was appended. -/
theorem parseRecord_of_append_nil {rest more : Bytes} (header : recordHeaderLen ≤ rest.length)
    (found : parseRecord (rest ++ more) = .record []) : parseRecord rest = .record [] := by
  have size : 8 ≤ rest.length := header
  have four : (rest ++ more).take 4 = rest.take 4 := List.take_append_of_le_length (by omega)
  have eight : ((rest ++ more).drop 4).take 4 = (rest.drop 4).take 4 := by
    rw [List.drop_append_of_le_length (by omega),
      List.take_append_of_le_length (by rw [List.length_drop]; omega)]
  obtain ⟨-, whole, body, sum⟩ := parseRecord_eq_record.mp found
  rw [four] at whole body
  rw [eight] at sum
  have zero : ofLittleEndian (rest.take 4) = 0 := by
    have length := congrArg List.length body
    rw [List.length_take, List.length_nil] at length
    omega
  rw [parseRecord_eq_record, zero]
  exact ⟨header, Nat.zero_le _, rfl, sum⟩

/-- Fewer bytes than a header do not line up with a record written behind them. -/
theorem parseRecord_short_append {rest : Bytes} (short : rest.length < recordHeaderLen)
    (nonempty : rest ≠ []) : parseRecord (rest ++ frame []) ≠ .record [] := by
  intro found
  have size : rest.length < 8 := short
  have positive : 0 < rest.length := List.length_pos_iff.mpr nonempty
  obtain ⟨-, -, -, sum⟩ := parseRecord_eq_record.mp found
  -- the last byte of the checksum would have to be an earlier byte of the empty record
  have bytes : ((rest ++ frame []).drop 4).take 4 = littleEndian 4 (checksum32 []).toNat := by
    have length : (((rest ++ frame []).drop 4).take 4).length = 4 := by
      rw [List.length_take, List.length_drop, List.length_append, length_frame]
      simp only [recordHeaderLen, List.length_nil]
      omega
    have digits := littleEndian_ofLittleEndian (((rest ++ frame []).drop 4).take 4)
    rw [length] at digits
    rw [sum, digits]
  have last := congrArg (fun bytes => bytes[3]?) bytes
  simp only [List.getElem?_take, List.getElem?_drop] at last
  rw [if_pos (by decide), List.getElem?_append_right (by omega)] at last
  have earlier : ∀ index < 7, (frame [])[index]? ≠ (littleEndian 4 (checksum32 []).toNat)[3]? := by decide
  exact earlier _ (by omega) last

/-- An empty record appended behind anything but a record boundary is not read back. -/
theorem scan_behind_torn {rest : Bytes} (torn : (scan rest).2 ≠ .clean) :
    (scan (rest ++ frame [])).1 ≠ (scan rest).1 ++ [[]] := by
  have alone : ∀ bytes, (scan bytes).1 = [[]] → parseRecord bytes = .record [] := by
    intro bytes only
    cases found : parseRecord bytes with
    | endOfFile => simp [scan_endOfFile found] at only
    | truncated => simp [scan_truncated found] at only
    | mismatch => simp [scan_mismatch found] at only
    | record payload =>
      rw [scan_record found] at only
      rw [(List.cons.inj only).1]
  induction size : rest.length using Nat.strong_induction_on generalizing rest with
  | _ bound ih =>
    have blocked : parseRecord rest = .truncated ∨ parseRecord rest = .mismatch →
        (scan (rest ++ frame [])).1 ≠ [[]] := by
      intro refused same
      have header : recordHeaderLen ≤ rest.length := by
        by_contra short
        simp [parseRecord, not_le.mp short] at refused
      simp [parseRecord_of_append_nil header (alone _ same)] at refused
    cases found : parseRecord rest with
    | endOfFile =>
      have short : rest.length < recordHeaderLen := by
        by_contra long
        simp only [parseRecord, if_neg long] at found
        split_ifs at found
      have nonempty : rest ≠ [] := by
        rintro rfl
        exact torn rfl
      rw [scan_endOfFile found]
      exact fun same => parseRecord_short_append short nonempty (alone _ same)
    | truncated =>
      rw [scan_truncated found]
      exact blocked (Or.inl found)
    | mismatch =>
      rw [scan_mismatch found]
      exact blocked (Or.inr found)
    | record payload =>
      have fits := parseRecord_record_length found
      have behind : (rest ++ frame []).drop (recordHeaderLen + payload.length) =
          rest.drop (recordHeaderLen + payload.length) ++ frame [] :=
        List.drop_append_of_le_length fits
      have shorter : (rest.drop (recordHeaderLen + payload.length)).length < bound := by
        simp only [recordHeaderLen, List.length_drop] at *
        omega
      rw [scan_record found] at torn
      rw [scan_record (parseRecord_append (frame []) found), scan_record found, behind]
      intro same
      exact ih _ shorter torn rfl (List.cons.inj same).2

end TelemetryFabric.Buffer
