import TelemetryFabric.Core.Telemetry

/-!
What `decode` accepts. Each reader takes the bytes its value would be written as, so a record
has one encoding, and none that another one begins with.
-/

namespace TelemetryFabric.Core
open Library

/-! ### Readers -/

theorem decoder_bind_ok {α β : Type} {decoder : Decoder α} {next : α → Decoder β} {input rest : Bytes}
    {value : β} (read : (decoder >>= next) input = .ok (value, rest)) :
    ∃ first middle, decoder input = .ok (first, middle) ∧ next first middle = .ok (value, rest) := by
  change (decoder input >>= fun found => next found.1 found.2) = _ at read
  cases start : decoder input with
  | error error =>
    rw [start] at read
    cases read
  | ok found =>
    rw [start] at read
    exact ⟨found.1, found.2, rfl, read⟩

theorem readExact_ok {len : Nat} {input bytes rest : Bytes} (read : readExact len input = .ok (bytes, rest)) :
    input = bytes ++ rest ∧ bytes.length = len := by
  unfold readExact at read
  split_ifs at read with short
  simp only [Except.ok.injEq, Prod.mk.injEq] at read
  obtain ⟨rfl, rfl⟩ := read
  refine ⟨(List.take_append_drop len input).symm, ?_⟩
  rw [List.length_take]
  omega

theorem readUnsigned_ok {width value : Nat} {input rest : Bytes}
    (read : readUnsigned width input = .ok (value, rest)) :
    input = littleEndian width value ++ rest ∧ value < 256 ^ width := by
  obtain ⟨bytes, middle, taken, done⟩ := decoder_bind_ok read
  obtain ⟨rfl, rfl⟩ := readExact_ok taken
  cases done
  rw [littleEndian_ofLittleEndian]
  exact ⟨rfl, ofLittleEndian_lt bytes⟩

theorem readString_ok {len : Nat} {text : String} {input rest : Bytes}
    (read : readString len input = .ok (text, rest)) :
    input = utf8 text ++ rest ∧ (utf8 text).length = len := by
  obtain ⟨bytes, middle, taken, done⟩ := decoder_bind_ok read
  obtain ⟨rfl, size⟩ := readExact_ok taken
  cases valid : fromUtf8? bytes with
  | none =>
    rw [valid] at done
    cases done
  | some found =>
    rw [valid] at done
    cases done
    rw [utf8_of_fromUtf8? valid]
    exact ⟨rfl, size⟩

theorem writeString_of_fits {text : String} (fits : (utf8 text).length ≤ u16Max) :
    writeString text = .ok (littleEndian 2 (utf8 text).length ++ utf8 text) := by
  unfold writeString
  rw [if_neg (not_lt.mpr fits)]

theorem le_u16Max_of_lt {value : Nat} (fits : value < 256 ^ 2) : value ≤ u16Max := by
  simp only [u16Max]
  omega

theorem le_u32Max_of_lt {value : Nat} (fits : value < 256 ^ 4) : value ≤ u32Max := by
  simp only [u32Max]
  omega

/-- A length and a text of that length are what `write_string` writes. -/
theorem readSized_ok {len : Nat} {text : String} {input middle rest : Bytes}
    (length : readUnsigned 2 input = .ok (len, middle)) (read : readString len middle = .ok (text, rest)) :
    ∃ bytes, writeString text = .ok bytes ∧ input = bytes ++ rest := by
  obtain ⟨rfl, fits⟩ := readUnsigned_ok length
  obtain ⟨rfl, rfl⟩ := readString_ok read
  exact ⟨_, writeString_of_fits (le_u16Max_of_lt fits), (List.append_assoc _ _ _).symm⟩

theorem readAttributes_ok {count : Nat} {attributes : List Attribute} {input rest : Bytes}
    (read : readAttributes count input = .ok (attributes, rest)) :
    attributes.length = count ∧ ∃ bytes, writeAttributes attributes = .ok bytes ∧ input = bytes ++ rest := by
  induction count generalizing attributes input with
  | zero =>
    cases read
    exact ⟨rfl, [], rfl, rfl⟩
  | succ count ih =>
    obtain ⟨keyLen, first, keyLength, read⟩ := decoder_bind_ok read
    obtain ⟨key, second, keyRead, read⟩ := decoder_bind_ok read
    obtain ⟨valueLen, third, valueLength, read⟩ := decoder_bind_ok read
    obtain ⟨value, fourth, valueRead, read⟩ := decoder_bind_ok read
    obtain ⟨later, last, laterRead, done⟩ := decoder_bind_ok read
    cases done
    obtain ⟨keyBytes, keyWritten, rfl⟩ := readSized_ok keyLength keyRead
    obtain ⟨valueBytes, valueWritten, rfl⟩ := readSized_ok valueLength valueRead
    obtain ⟨size, laterBytes, laterWritten, rfl⟩ := ih laterRead
    refine ⟨congrArg Nat.succ size, keyBytes ++ valueBytes ++ laterBytes, ?_, by simp⟩
    rw [writeAttributes, keyWritten, valueWritten, laterWritten]
    rfl

theorem fromWire_ok {wire : Nat} {signal : SignalKind} (read : SignalKind.fromWire wire = .ok signal) :
    littleEndian 1 wire = [signal.toWire] := by
  unfold SignalKind.fromWire at read
  split at read <;> cases read <;> rfl

theorem liftM_ok {α : Type} {outcome : Except TelemetryError α} {value : α} {input rest : Bytes}
    (read : (liftM outcome : Decoder α) input = .ok (value, rest)) : outcome = .ok value ∧ input = rest := by
  cases outcome with
  | error error => cases read
  | ok found =>
    cases read
    exact ⟨rfl, rfl⟩

/-! ### Records -/

/-- Every length is within the field it is written to. -/
structure TelemetryRecord.Fits (record : TelemetryRecord) : Prop where
  tenant : (utf8 record.tenantId).length ≤ u16Max
  count : record.attributes.length ≤ u16Max
  attributes : ∀ entry ∈ record.attributes,
    (utf8 entry.key).length ≤ u16Max ∧ (utf8 entry.value).length ≤ u16Max
  body : record.body.length ≤ u32Max

theorem fits_of_writeAttributes {attributes : List Attribute} {bytes : Bytes}
    (written : writeAttributes attributes = .ok bytes) :
    ∀ entry ∈ attributes, (utf8 entry.key).length ≤ u16Max ∧ (utf8 entry.value).length ≤ u16Max := by
  induction attributes generalizing bytes with
  | nil => exact fun entry member => absurd member List.not_mem_nil
  | cons head rest ih =>
    obtain ⟨key, value, later, keyWritten, valueWritten, laterWritten, -⟩ := writeAttributes_cons written
    intro entry member
    rcases List.mem_cons.mp member with rfl | behind
    · exact ⟨(writeString_eq_ok keyWritten).1, (writeString_eq_ok valueWritten).1⟩
    · exact ih laterWritten entry behind

theorem encode_fits {record : TelemetryRecord} {bytes : Bytes} (encoded : record.encode = .ok bytes) :
    record.Fits := by
  obtain ⟨tenant, count, body, attributes, written, -⟩ := encode_eq_ok encoded
  exact ⟨tenant, count, fits_of_writeAttributes written, body⟩

/-- What `decode` has accepted is what the record it returns is written as. -/
theorem decode_ok {bytes : Bytes} {record : TelemetryRecord}
    (decoded : TelemetryRecord.decode bytes = .ok record) :
    record.Fits ∧ ∃ attributes, writeAttributes record.attributes = .ok attributes ∧
      bytes = recordMagic ++ ([record.signal.toWire] ++
        (littleEndian 16 record.timestampUnixNanos.toNat ++ (littleEndian 2 (utf8 record.tenantId).length ++
          (utf8 record.tenantId ++ (littleEndian 2 record.attributes.length ++ (attributes ++
            (littleEndian 4 record.body.length ++ record.body))))))) := by
  obtain ⟨rest, read, whole⟩ : ∃ rest, readFields bytes = .ok (record, rest) ∧ rest = [] := by
    unfold TelemetryRecord.decode at decoded
    cases read : readFields bytes with
    | error error => simp [read, Bind.bind, Except.bind] at decoded
    | ok found =>
      rw [read] at decoded
      simp only [Bind.bind, Except.bind] at decoded
      split_ifs at decoded with trailing
      cases decoded
      exact ⟨found.2, rfl, not_not.mp trailing⟩
  subst whole
  obtain ⟨magic, afterMagic, magicRead, read⟩ := decoder_bind_ok read
  by_cases matched : magic = recordMagic
  · rw [if_neg (not_not.mpr matched)] at read
    obtain ⟨wire, afterWire, wireRead, read⟩ := decoder_bind_ok read
    obtain ⟨signal, afterSignal, signalRead, read⟩ := decoder_bind_ok read
    obtain ⟨timestamp, afterTimestamp, timestampRead, read⟩ := decoder_bind_ok read
    obtain ⟨tenantLen, afterTenantLen, tenantLenRead, read⟩ := decoder_bind_ok read
    obtain ⟨tenant, afterTenant, tenantRead, read⟩ := decoder_bind_ok read
    obtain ⟨count, afterCount, countRead, read⟩ := decoder_bind_ok read
    obtain ⟨attributes, afterAttributes, attributesRead, read⟩ := decoder_bind_ok read
    obtain ⟨bodyLen, afterBodyLen, bodyLenRead, read⟩ := decoder_bind_ok read
    obtain ⟨body, afterBody, bodyRead, done⟩ := decoder_bind_ok read
    cases done
    obtain ⟨rfl, -⟩ := readExact_ok magicRead
    obtain ⟨rfl, -⟩ := readUnsigned_ok wireRead
    obtain ⟨known, rfl⟩ := liftM_ok signalRead
    obtain ⟨rfl, timestampFits⟩ := readUnsigned_ok timestampRead
    obtain ⟨rfl, tenantFits⟩ := readUnsigned_ok tenantLenRead
    obtain ⟨rfl, rfl⟩ := readString_ok tenantRead
    obtain ⟨rfl, countFits⟩ := readUnsigned_ok countRead
    obtain ⟨rfl, attributeBytes, written, rfl⟩ := readAttributes_ok attributesRead
    obtain ⟨rfl, bodyFits⟩ := readUnsigned_ok bodyLenRead
    obtain ⟨rfl, rfl⟩ := readExact_ok bodyRead
    have time : (BitVec.ofNat 128 timestamp).toNat = timestamp := by
      rw [BitVec.toNat_ofNat]
      exact Nat.mod_eq_of_lt timestampFits
    refine ⟨⟨le_u16Max_of_lt tenantFits, le_u16Max_of_lt countFits, fits_of_writeAttributes written,
      le_u32Max_of_lt bodyFits⟩, attributeBytes, written, ?_⟩
    simp only [time, fromWire_ok known, matched, List.append_nil]
  · rw [if_pos matched] at read
    cases read

/-- A record is read off the front of any input that begins with its encoding. -/
theorem decode_append {bytes extra : Bytes} {record : TelemetryRecord}
    (decoded : TelemetryRecord.decode bytes = .ok record) (more : extra ≠ []) :
    TelemetryRecord.decode (bytes ++ extra) = .error (.decodeError "record has trailing bytes") := by
  obtain ⟨fits, attributes, written, rfl⟩ := decode_ok decoded
  have read := readFields_written fits.tenant fits.count fits.body written extra
  unfold TelemetryRecord.decode
  rw [read]
  simp only [Bind.bind, Except.bind]
  rw [if_pos more]
  rfl

/-- What `encode` writes has its lengths in their fields and is decoded to the same record,
and nothing that it begins with or that begins with it is decoded to any record. What is
decoded to a record that can be encoded is its encoding. -/
theorem record_format_canonical :
    (∀ (record : TelemetryRecord) (bytes : Bytes), record.encode = .ok bytes →
      TelemetryRecord.decode bytes = .ok record ∧ record.Fits ∧
      (∀ shorter, shorter <+: bytes → shorter ≠ bytes →
        ∃ error, TelemetryRecord.decode shorter = .error error) ∧
      (∀ longer, bytes <+: longer → longer ≠ bytes →
        ∃ error, TelemetryRecord.decode longer = .error error)) ∧
    (∀ (bytes other : Bytes) (record : TelemetryRecord), TelemetryRecord.decode bytes = .ok record →
      record.encode = .ok other → other = bytes) := by
  constructor
  · intro record bytes encoded
    have decoded := decode_encode encoded
    refine ⟨decoded, encode_fits encoded, ?_, ?_⟩
    · rintro shorter ⟨extra, rfl⟩ proper
      cases early : TelemetryRecord.decode shorter with
      | error error => exact ⟨error, rfl⟩
      | ok found =>
        have more : extra ≠ [] := by
          rintro rfl
          exact proper (List.append_nil shorter).symm
        rw [decode_append early more] at decoded
        cases decoded
    · rintro longer ⟨extra, rfl⟩ proper
      have more : extra ≠ [] := by
        rintro rfl
        exact proper (List.append_nil bytes)
      exact ⟨_, decode_append decoded more⟩
  · intro bytes other record decoded encoded
    obtain ⟨-, attributes, written, rfl⟩ := decode_ok decoded
    obtain ⟨-, -, -, again, rewritten, rfl⟩ := encode_eq_ok encoded
    rw [written] at rewritten
    cases rewritten
    simp only [List.append_assoc]

theorem record_format_canonical_log :
    ∃ bytes, TelemetryRecord.encode ⟨"t", .log, 258, [⟨"k", "v"⟩], [7]⟩ = .ok bytes ∧ bytes.length = 37 ∧
      (∀ shorter, shorter <+: bytes → shorter ≠ bytes →
        ∃ error, TelemetryRecord.decode shorter = .error error) := by
  have size : (TelemetryRecord.encode ⟨"t", .log, 258, [⟨"k", "v"⟩], [7]⟩).map List.length = .ok 37 := by
    decide +kernel
  cases encoded : TelemetryRecord.encode ⟨"t", .log, 258, [⟨"k", "v"⟩], [7]⟩ with
  | error error =>
    rw [encoded] at size
    cases size
  | ok bytes =>
    rw [encoded] at size
    exact ⟨bytes, rfl, Except.ok.inj size, (record_format_canonical.1 _ bytes encoded).2.2.1⟩

end TelemetryFabric.Core
