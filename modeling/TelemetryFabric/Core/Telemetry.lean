import Mathlib.Data.List.Basic
import TelemetryFabric.Library.LittleEndian
import TelemetryFabric.Library.Text
import TelemetryFabric.Library.Utf8

/-!
Telemetry records and their binary form. `encode` checks the record and writes it with
little-endian length fields; `decode` reads it back and refuses anything else. Whatever
`encode` produces is decoded to the same record.
-/

namespace TelemetryFabric.Core
open Library

inductive SignalKind where
  | trace
  | metric
  | log
  deriving DecidableEq, Repr

namespace SignalKind

def asStr : SignalKind → String
  | .trace => "trace"
  | .metric => "metric"
  | .log => "log"

def fromToken : String → Option SignalKind
  | "trace" | "traces" => some .trace
  | "metric" | "metrics" => some .metric
  | "log" | "logs" => some .log
  | _ => none

def toWire : SignalKind → UInt8
  | .trace => 1
  | .metric => 2
  | .log => 3

end SignalKind

inductive TelemetryError where
  | invalidRecord (message : String)
  | decodeError (message : String)
  | payloadTooLarge (size : Nat)
  deriving DecidableEq, Repr

def TelemetryError.display : TelemetryError → String
  | .invalidRecord message => "invalid telemetry record: " ++ message
  | .decodeError message => "failed to decode telemetry record: " ++ message
  | .payloadTooLarge size => "payload is too large: " ++ toString size ++ " bytes"

structure Attribute where
  key : String
  value : String
  deriving DecidableEq, Repr

structure TelemetryRecord where
  tenantId : String
  signal : SignalKind
  timestampUnixNanos : BitVec 128
  attributes : List Attribute
  body : Bytes
  deriving DecidableEq

/-- A record stamped with the time `now_unix_nanos` returns. -/
def TelemetryRecord.new (now : BitVec 128) (tenantId : String) (signal : SignalKind) (body : Bytes) :
    TelemetryRecord :=
  ⟨tenantId, signal, now, [], body⟩

def TelemetryRecord.withAttribute (record : TelemetryRecord) (key value : String) : TelemetryRecord :=
  { record with attributes := record.attributes ++ [⟨key, value⟩] }

structure RecordBatch where
  records : List TelemetryRecord
  deriving DecidableEq

def recordMagic : Bytes := [0x54, 0x46, 0x42, 0x31]

/-! ### Encoding -/

def writeString (value : String) : Except TelemetryError Bytes :=
  if (utf8 value).length > u16Max then .error (.payloadTooLarge (utf8 value).length)
  else .ok (littleEndian 2 (utf8 value).length ++ utf8 value)

def writeAttributes : List Attribute → Except TelemetryError Bytes
  | [] => .ok []
  | entry :: rest => do
      let key ← writeString entry.key
      let value ← writeString entry.value
      let later ← writeAttributes rest
      return key ++ value ++ later

namespace TelemetryRecord

def validate (record : TelemetryRecord) (maxRecordBytes : Nat) : Except TelemetryError Unit :=
  if isBlank record.tenantId then .error (.invalidRecord "tenant_id must not be empty")
  else if record.body.length > maxRecordBytes then .error (.payloadTooLarge record.body.length)
  else if record.attributes.any (fun entry => isBlank entry.key) then
    .error (.invalidRecord "attribute keys must not be empty")
  else .ok ()

def encode (record : TelemetryRecord) : Except TelemetryError Bytes := do
  record.validate u32Max
  let tenant := utf8 record.tenantId
  if tenant.length > u16Max then throw (.payloadTooLarge tenant.length)
  if record.attributes.length > u16Max then throw (.payloadTooLarge record.attributes.length)
  if record.body.length > u32Max then throw (.payloadTooLarge record.body.length)
  let attributes ← writeAttributes record.attributes
  return recordMagic ++ [record.signal.toWire] ++ littleEndian 16 record.timestampUnixNanos.toNat ++
    littleEndian 2 tenant.length ++ tenant ++ littleEndian 2 record.attributes.length ++ attributes ++
    littleEndian 4 record.body.length ++ record.body

end TelemetryRecord

/-! ### Decoding -/

/-- The decoding cursor: what is left of the input. -/
abbrev Decoder := StateT Bytes (Except TelemetryError)

def readExact (len : Nat) : Decoder Bytes := fun rest =>
  if rest.length < len then .error (.decodeError "record ended unexpectedly")
  else .ok (rest.take len, rest.drop len)

/-- `read_u8`, `read_u16`, `read_u32` and `read_u128`, by their width in bytes. -/
def readUnsigned (width : Nat) : Decoder Nat := do
  return ofLittleEndian (← readExact width)

def readString (len : Nat) : Decoder String := do
  let bytes ← readExact len
  match fromUtf8? bytes with
  | some text => return text
  | none => throw (.decodeError (fromUtf8Error bytes))

def SignalKind.fromWire : Nat → Except TelemetryError SignalKind
  | 1 => .ok .trace
  | 2 => .ok .metric
  | 3 => .ok .log
  | other => .error (.decodeError ("unknown signal kind: " ++ toString other))

def readAttributes : Nat → Decoder (List Attribute)
  | 0 => return []
  | count + 1 => do
      let keyLen ← readUnsigned 2
      let key ← readString keyLen
      let valueLen ← readUnsigned 2
      let value ← readString valueLen
      return ⟨key, value⟩ :: (← readAttributes count)

/-- The fields of a record, in the order they are written. -/
def readFields : Decoder TelemetryRecord := do
  let magic ← readExact 4
  if magic ≠ recordMagic then throw (.decodeError "record magic does not match")
  let signal ← SignalKind.fromWire (← readUnsigned 1)
  let timestamp ← readUnsigned 16
  let tenantLen ← readUnsigned 2
  let tenantId ← readString tenantLen
  let attributeCount ← readUnsigned 2
  let attributes ← readAttributes attributeCount
  let bodyLen ← readUnsigned 4
  let body ← readExact bodyLen
  return ⟨tenantId, signal, BitVec.ofNat 128 timestamp, attributes, body⟩

def TelemetryRecord.decode (input : Bytes) : Except TelemetryError TelemetryRecord := do
  let (record, rest) ← readFields input
  if rest ≠ [] then throw (.decodeError "record has trailing bytes")
  return record

/-! ### Round trip -/

/-- The decoder takes exactly these bytes off its input and returns the value. -/
def Decodes {α : Type} (decoder : Decoder α) (bytes : Bytes) (value : α) : Prop :=
  ∀ rest, decoder (bytes ++ rest) = .ok (value, rest)

namespace Decodes

variable {α β : Type}

theorem pure (value : α) : Decodes (Pure.pure value) [] value := fun _ => rfl

theorem bind {decoder : Decoder α} {next : α → Decoder β} {first second : Bytes} {value : α} {result : β}
    (start : Decodes decoder first value) (rest : Decodes (next value) second result) :
    Decodes (decoder >>= next) (first ++ second) result := by
  intro tail
  change (decoder ((first ++ second) ++ tail) >>= fun found => next found.1 found.2) = _
  rw [List.append_assoc, start (second ++ tail)]
  exact rest tail

theorem readExact (bytes : Bytes) {len : Nat} (size : bytes.length = len) :
    Decodes (Core.readExact len) bytes bytes := by
  intro rest
  unfold Core.readExact
  rw [if_neg (by rw [List.length_append]; omega), ← size, List.take_left, List.drop_left]

theorem readUnsigned {width value : Nat} (fits : value < 256 ^ width) :
    Decodes (Core.readUnsigned width) (littleEndian width value) value := by
  rw [← List.append_nil (littleEndian width value)]
  refine bind (readExact _ (length_littleEndian width value)) ?_
  rw [ofLittleEndian_littleEndian width value fits]
  exact pure value

theorem readUnsigned_byte (byte : UInt8) :
    Decodes (Core.readUnsigned 1) [byte] (ofLittleEndian [byte]) := by
  have done : Decodes (Core.readUnsigned 1) ([byte] ++ []) (ofLittleEndian [byte]) :=
    bind (readExact [byte] rfl) (pure _)
  rwa [List.append_nil] at done

theorem lift {outcome : Except TelemetryError α} {value : α} (found : outcome = .ok value) :
    Decodes (liftM outcome) [] value := by
  intro rest
  rw [found]
  rfl

theorem readString (text : String) : Decodes (Core.readString (utf8 text).length) (utf8 text) text := by
  have done : Decodes (Core.readString (utf8 text).length) (utf8 text ++ []) text := by
    refine bind (readExact _ rfl) ?_
    rw [fromUtf8?_utf8]
    exact pure text
  rwa [List.append_nil] at done

end Decodes

theorem writeString_eq_ok {value : String} {bytes : Bytes} (written : writeString value = .ok bytes) :
    (utf8 value).length ≤ u16Max ∧ bytes = littleEndian 2 (utf8 value).length ++ utf8 value := by
  unfold writeString at written
  split_ifs at written with long
  cases written
  exact ⟨not_lt.mp long, rfl⟩

theorem lt_of_le_u16Max {value : Nat} (fits : value ≤ u16Max) : value < 256 ^ 2 := by
  simp only [u16Max] at fits
  omega

theorem lt_of_le_u32Max {value : Nat} (fits : value ≤ u32Max) : value < 256 ^ 4 := by
  simp only [u32Max] at fits
  omega

theorem writeAttributes_cons {entry : Attribute} {rest : List Attribute} {bytes : Bytes}
    (written : writeAttributes (entry :: rest) = .ok bytes) :
    ∃ key value later, writeString entry.key = .ok key ∧ writeString entry.value = .ok value ∧
      writeAttributes rest = .ok later ∧ bytes = key ++ value ++ later := by
  rw [writeAttributes] at written
  cases key : writeString entry.key with
  | error error => simp [key, Bind.bind, Except.bind] at written
  | ok keyBytes =>
    cases value : writeString entry.value with
    | error error => simp [key, value, Bind.bind, Except.bind] at written
    | ok valueBytes =>
      cases later : writeAttributes rest with
      | error error => simp [key, value, later, Bind.bind, Except.bind] at written
      | ok laterBytes =>
        simp only [key, value, later, Bind.bind, Except.bind, Pure.pure, Except.pure,
          Except.ok.injEq] at written
        exact ⟨keyBytes, valueBytes, laterBytes, rfl, rfl, rfl, written.symm⟩

theorem readAttributes_written {attributes : List Attribute} {bytes : Bytes}
    (written : writeAttributes attributes = .ok bytes) :
    Decodes (readAttributes attributes.length) bytes attributes := by
  induction attributes generalizing bytes with
  | nil =>
    cases written
    exact Decodes.pure []
  | cons entry rest ih =>
    obtain ⟨key, value, later, keyWritten, valueWritten, laterWritten, rfl⟩ := writeAttributes_cons written
    obtain ⟨keyFits, rfl⟩ := writeString_eq_ok keyWritten
    obtain ⟨valueFits, rfl⟩ := writeString_eq_ok valueWritten
    have tail : Decodes (do return entry :: (← readAttributes rest.length)) (later ++ []) (entry :: rest) :=
      Decodes.bind (ih laterWritten) (Decodes.pure _)
    rw [List.append_nil] at tail
    simp only [List.append_assoc]
    exact Decodes.bind (Decodes.readUnsigned (lt_of_le_u16Max keyFits))
      (Decodes.bind (Decodes.readString entry.key)
        (Decodes.bind (Decodes.readUnsigned (lt_of_le_u16Max valueFits))
          (Decodes.bind (Decodes.readString entry.value) tail)))

theorem fromWire_toWire (signal : SignalKind) :
    SignalKind.fromWire (ofLittleEndian [signal.toWire]) = .ok signal := by
  cases signal <;> rfl

theorem validate_eq_ok {record : TelemetryRecord} {limit : Nat} :
    record.validate limit = .ok () ↔ isBlank record.tenantId = false ∧ record.body.length ≤ limit ∧
      record.attributes.any (fun entry => isBlank entry.key) = false := by
  unfold TelemetryRecord.validate
  split_ifs with blank long keys <;> simp_all

/-- Everything a successful `encode` has checked, and what it writes. -/
theorem encode_eq_ok {record : TelemetryRecord} {bytes : Bytes} (encoded : record.encode = .ok bytes) :
    (utf8 record.tenantId).length ≤ u16Max ∧ record.attributes.length ≤ u16Max ∧
      record.body.length ≤ u32Max ∧ ∃ attributes, writeAttributes record.attributes = .ok attributes ∧
      bytes = recordMagic ++ [record.signal.toWire] ++
        littleEndian 16 record.timestampUnixNanos.toNat ++
        littleEndian 2 (utf8 record.tenantId).length ++ utf8 record.tenantId ++
        littleEndian 2 record.attributes.length ++ attributes ++
        littleEndian 4 record.body.length ++ record.body := by
  unfold TelemetryRecord.encode at encoded
  cases checked : record.validate u32Max with
  | error error => simp [checked, Bind.bind, Except.bind] at encoded
  | ok done =>
    rw [checked] at encoded
    simp only [Bind.bind, Except.bind] at encoded
    split_ifs at encoded with tenant count body
    cases written : writeAttributes record.attributes with
    | error error => simp [written] at encoded
    | ok attributes =>
      rw [written] at encoded
      simp only [Pure.pure, Except.pure, Except.ok.injEq] at encoded
      exact ⟨not_lt.mp tenant, not_lt.mp count, not_lt.mp body, attributes, rfl, encoded.symm⟩

/-- A record whose lengths fit their fields is read back from its bytes, whatever follows. -/
theorem readFields_written {record : TelemetryRecord} {attributes : Bytes}
    (tenant : (utf8 record.tenantId).length ≤ u16Max) (count : record.attributes.length ≤ u16Max)
    (body : record.body.length ≤ u32Max) (written : writeAttributes record.attributes = .ok attributes) :
    Decodes readFields (recordMagic ++ ([record.signal.toWire] ++
      (littleEndian 16 record.timestampUnixNanos.toNat ++ (littleEndian 2 (utf8 record.tenantId).length ++
        (utf8 record.tenantId ++ (littleEndian 2 record.attributes.length ++ (attributes ++
          (littleEndian 4 record.body.length ++ record.body)))))))) record := by
  have fields : Decodes readFields (recordMagic ++ ([record.signal.toWire] ++ ([] ++
      (littleEndian 16 record.timestampUnixNanos.toNat ++ (littleEndian 2 (utf8 record.tenantId).length ++
        (utf8 record.tenantId ++ (littleEndian 2 record.attributes.length ++ (attributes ++
          (littleEndian 4 record.body.length ++ (record.body ++ [])))))))))) record := by
    refine Decodes.bind (Decodes.readExact recordMagic rfl) ?_
    rw [if_neg (by simp)]
    refine Decodes.bind (Decodes.readUnsigned_byte record.signal.toWire) ?_
    refine Decodes.bind (Decodes.lift (fromWire_toWire record.signal)) ?_
    refine Decodes.bind (Decodes.readUnsigned record.timestampUnixNanos.isLt) ?_
    refine Decodes.bind (Decodes.readUnsigned (lt_of_le_u16Max tenant)) ?_
    refine Decodes.bind (Decodes.readString record.tenantId) ?_
    refine Decodes.bind (Decodes.readUnsigned (lt_of_le_u16Max count)) ?_
    refine Decodes.bind (readAttributes_written written) ?_
    refine Decodes.bind (Decodes.readUnsigned (lt_of_le_u32Max body)) ?_
    refine Decodes.bind (Decodes.readExact record.body rfl) ?_
    rw [BitVec.ofNat_toNat, BitVec.setWidth_eq]
    exact Decodes.pure record
  rwa [List.append_nil, List.nil_append] at fields

/-- Whatever `encode` writes, `decode` reads back. -/
theorem decode_encode {record : TelemetryRecord} {bytes : Bytes} (encoded : record.encode = .ok bytes) :
    TelemetryRecord.decode bytes = .ok record := by
  obtain ⟨tenant, count, body, attributes, written, rfl⟩ := encode_eq_ok encoded
  have read := readFields_written tenant count body written []
  rw [List.append_nil] at read
  simp only [TelemetryRecord.decode, List.append_assoc, read]
  rfl

end TelemetryFabric.Core
