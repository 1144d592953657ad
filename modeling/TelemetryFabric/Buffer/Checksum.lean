import TelemetryFabric.Buffer.Rules
import TelemetryFabric.Library.Folds

/-!
What the checksum of a record tells apart. One step of the hash is an exclusive or and a
multiplication with an odd number, so that nothing of the hash and nothing of the byte is lost.
-/

namespace TelemetryFabric.Buffer
open Library

/-! ### One step -/

theorem mul_prime_injective : Function.Injective fun hash : UInt32 => hash * 0x01000193 := by
  have inverse : ∀ hash : UInt32, hash * 0x01000193 * 0x359c449b = hash := by
    intro hash
    rw [UInt32.mul_assoc, show (0x01000193 : UInt32) * 0x359c449b = 1 from by decide, UInt32.mul_one]
  intro first second same
  rw [← inverse first, ← inverse second]
  exact congrArg (· * 0x359c449b) same

theorem checksum_step_injective (byte : UInt8) :
    Function.Injective fun hash : UInt32 => (hash ^^^ byte.toUInt32) * 0x01000193 := by
  intro first second same
  exact (UInt32.xor_left_inj _).mp (mul_prime_injective same)

theorem checksum_byte_injective (hash : UInt32) :
    Function.Injective fun byte : UInt8 => (hash ^^^ byte.toUInt32) * 0x01000193 := by
  intro first second same
  exact UInt8.toUInt32_inj.mp ((UInt32.xor_right_inj _).mp (mul_prime_injective same))

theorem checksum32_ne_of_ne (front rest : Bytes) {byte other : UInt8} (differ : byte ≠ other) :
    checksum32 (front ++ byte :: rest) ≠ checksum32 (front ++ other :: rest) :=
  foldl_ne_of_ne checksum_step_injective checksum_byte_injective _ front rest differ

theorem checksum32_set_ne {payload : Bytes} {index : Nat} (inside : index < payload.length) {byte : UInt8}
    (differ : byte ≠ payload[index]) : checksum32 (payload.set index byte) ≠ checksum32 payload := by
  have whole : payload.take index ++ payload[index] :: payload.drop (index + 1) = payload := by
    rw [← List.drop_eq_getElem_cons inside, List.take_append_drop]
  have apart := checksum32_ne_of_ne (payload.take index) (payload.drop (index + 1)) differ
  rw [whole] at apart
  rwa [List.set_eq_take_append_cons_drop, if_pos inside]

/-! ### A record with an altered byte -/

/-- The length and the checksum of the header are as they were, and the payload is another one. -/
theorem parseRecord_altered {rest payload : Bytes} (stored : parseRecord rest = .record payload) {index : Nat}
    (inside : index < payload.length) {byte : UInt8} (differ : byte ≠ payload[index]) :
    parseRecord (rest.set (recordHeaderLen + index) byte) = .mismatch := by
  obtain ⟨header, whole, body, sum⟩ := parseRecord_eq_record.mp stored
  have behind : ¬recordHeaderLen + index < recordHeaderLen := by omega
  have len : (rest.set (recordHeaderLen + index) byte).take 4 = rest.take 4 := by
    rw [List.take_set, List.set_eq_of_length_le]
    rw [List.length_take, recordHeaderLen]
    omega
  have expected : ((rest.set (recordHeaderLen + index) byte).drop 4).take 4 = (rest.drop 4).take 4 := by
    rw [List.drop_set, if_neg (by rw [recordHeaderLen]; omega), List.take_set, List.set_eq_of_length_le]
    rw [List.length_take, recordHeaderLen]
    omega
  have altered : ((rest.set (recordHeaderLen + index) byte).drop recordHeaderLen).take (ofLittleEndian (rest.take 4)) =
      payload.set index byte := by
    rw [List.drop_set, if_neg behind, List.take_set, ← body, Nat.add_sub_cancel_left]
  have long : ¬(rest.set (recordHeaderLen + index) byte).length < recordHeaderLen := by
    rw [List.length_set]
    omega
  have enough : ¬((rest.set (recordHeaderLen + index) byte).drop recordHeaderLen).length < ofLittleEndian (rest.take 4) := by
    rw [List.drop_set, if_neg behind, List.length_set]
    omega
  have unequal : (checksum32 (payload.set index byte)).toNat ≠ ofLittleEndian ((rest.drop 4).take 4) := by
    rw [← sum]
    exact fun same => checksum32_set_ne inside differ (UInt32.toNat_inj.mp same)
  simp only [parseRecord, len, expected, altered]
  rw [if_neg long, if_neg enough, if_pos unequal]

/-- The branch of `read_step_at` for a payload whose checksum is not the one in the header: the
segment is set aside, and the reader goes on behind it. -/
def refuseRecord (cursor : Cursor) : QueueM ReadStep := do
  probe
  probe
  probe
  probe
  quarantineAndAdvance cursor.segmentId
    ("checksum mismatch in segment " ++ toString cursor.segmentId ++ " at offset " ++ toString cursor.offset)

theorem readStepAt_of_mismatch {session : Session} {cursor : Cursor} {file : SegmentFile}
    (found : session.queue.dir.segments.find? cursor.segmentId = some file)
    (parsed : parseRecord (file.bytes.drop cursor.offset) = .mismatch) :
    readStepAt cursor session = refuseRecord cursor session := by
  unfold readStepAt refuseRecord
  rw [bind_apply, getQueue_apply]
  simp only [found, parsed]

/-- What `read_step_at` returns where the checksum is wrong is no record. -/
theorem not_record_of_mismatch {session later : Session} {cursor next : Cursor} {file : SegmentFile} {payload : Bytes}
    (found : session.queue.dir.segments.find? cursor.segmentId = some file)
    (parsed : parseRecord (file.bytes.drop cursor.offset) = .mismatch) :
    readStepAt cursor session ≠ .ok (.record payload next) later := by
  intro returned
  obtain ⟨-, -, other, present, recorded⟩ := (StepsTo.of_returned returned).of_record
  rw [found] at present
  cases present
  rw [parsed] at recorded
  cases recorded

/-- For every payload, position and byte: one altered byte changes the checksum, so that the record
is refused, whatever calls fail on the way. -/
theorem altered_byte_refused :
    (∀ first second : Bytes, first.length = second.length → (∃! index : Nat, first[index]? ≠ second[index]?) →
      checksum32 first ≠ checksum32 second) ∧
    ∀ (session : Session) (cursor : Cursor) (file altered : SegmentFile) (payload : Bytes) (index : Nat)
      (inside : index < payload.length) (byte : UInt8),
      parseRecord (file.bytes.drop cursor.offset) = .record payload → byte ≠ payload[index] →
      altered.bytes = file.bytes.set (cursor.offset + recordHeaderLen + index) byte →
      session.queue.dir.segments.find? cursor.segmentId = some altered →
      readStepAt cursor session = refuseRecord cursor session ∧
        ∀ delivered next later, readStepAt cursor session ≠ .ok (.record delivered next) later := by
  constructor
  · intro first second size one
    obtain ⟨front, byte, other, rest, differ, rfl, rfl⟩ := exists_split_of_existsUnique size one
    exact checksum32_ne_of_ne front rest differ
  · intro session cursor file altered payload index inside byte stored differ changed found
    have parsed : parseRecord (altered.bytes.drop cursor.offset) = .mismatch := by
      have place : ¬cursor.offset + recordHeaderLen + index < cursor.offset := by omega
      have behind : cursor.offset + recordHeaderLen + index - cursor.offset = recordHeaderLen + index := by omega
      rw [changed, List.drop_set, if_neg place, behind]
      exact parseRecord_altered stored inside differ
    exact ⟨readStepAt_of_mismatch found parsed, fun delivered next later => not_record_of_mismatch found parsed⟩

/-- One record of two bytes, the second of which is altered. -/
def alteredFile : SegmentFile := ⟨(frame [1, 2]).set 9 7, by decide⟩

def alteredSession : Session :=
  let segments := OrderedMap.empty.insert 1 alteredFile
  ⟨DiskQueue.openDir { Directory.fresh "queue" with segments := segments } ⟨100, false⟩, []⟩

theorem altered_byte_refused_twoBytes :
    checksum32 [1, 2] ≠ checksum32 [1, 7] ∧
      readStepAt ⟨1, 0⟩ alteredSession = refuseRecord ⟨1, 0⟩ alteredSession ∧
      ∀ delivered next later, readStepAt ⟨1, 0⟩ alteredSession ≠ .ok (.record delivered next) later := by
  have one : ∃! index : Nat, ([1, 2] : Bytes)[index]? ≠ ([1, 7] : Bytes)[index]? := by
    refine ⟨1, by decide, ?_⟩
    intro index differ
    match index with
    | 0 => exact absurd rfl differ
    | 1 => rfl
    | index + 2 => exact absurd rfl differ
  refine ⟨altered_byte_refused.1 _ _ rfl one, ?_⟩
  exact altered_byte_refused.2 alteredSession ⟨1, 0⟩ ⟨frame [1, 2], by decide⟩ alteredFile [1, 2] 1
    (by decide) 7 (by decide) (by decide) rfl (by rfl)

end TelemetryFabric.Buffer
