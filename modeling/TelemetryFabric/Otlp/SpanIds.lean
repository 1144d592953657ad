import TelemetryFabric.Otlp.Logs

/-!
The ids of exported spans. What is stored as an id is read if it is one; else an id is made from a
hash of the body or of the name. Whatever the record holds, the ids that are sent are valid.
-/

namespace TelemetryFabric.Otlp
open Library TelemetryFabric.Core

/-- So many bytes, not all of them zero. -/
structure ProperId (id : Bytes) (len : Nat) : Prop where
  size : id.length = len
  nonzero : id.all (· == 0) = false

/-! ### Ids that are read -/

theorem length_hexPairs {bytes output : Bytes} (read : hexPairs bytes = some output) : output.length = bytes.length / 2 := by
  induction bytes using hexPairs.induct generalizing output with
  | case1 high low rest ih =>
    obtain ⟨first, -, read⟩ := Option.bind_eq_some_iff.mp read
    obtain ⟨second, -, read⟩ := Option.bind_eq_some_iff.mp read
    obtain ⟨others, more, same⟩ := Option.bind_eq_some_iff.mp read
    cases same
    rw [List.length_cons, ih more, List.length_cons, List.length_cons]
    omega
  | case2 bytes short =>
    have none : output = [] := by
      rw [hexPairs] at read
      · exact (Option.some.inj read).symm
      · exact short
    subst none
    rcases bytes with _ | ⟨high, _ | ⟨low, rest⟩⟩
    · rfl
    · simp
    · exact (short high low rest rfl).elim

/-- Only proper ids are read. -/
theorem properId_of_hexDecodeFixed {value : String} {len : Nat} {id : Bytes} (read : hexDecodeFixed value len = some id) :
    ProperId id len := by
  unfold hexDecodeFixed at read
  split_ifs at read with size
  obtain ⟨pairs, nonzero⟩ := Option.filter_eq_some_iff.mp read
  constructor
  · rw [length_hexPairs pairs, not_not.mp size, Nat.mul_div_cancel len (by decide)]
  · exact Bool.not_eq_true' _ ▸ nonzero

theorem hexDecodeFixed_proper {id : Bytes} {len : Nat} (proper : ProperId id len) :
    hexDecodeFixed (hexEncode id) len = some id :=
  hexDecodeFixed_hexEncode proper.size proper.nonzero

/-! ### Ids that are made -/

/-- Each turn of the loop adds four bytes, so that it ends because there are enough. -/
theorem le_length_fallbackFrom {len fuel : Nat} {hash : UInt32} {output : Bytes} (enough : len ≤ output.length + 4 * fuel) :
    len ≤ (fallbackFrom len fuel hash output).length := by
  induction fuel generalizing hash output with
  | zero => exact enough
  | succ fuel ih =>
    rw [fallbackFrom]
    by_cases short : output.length < len
    · rw [if_pos short]
      apply ih
      rw [List.length_append, length_littleEndian]
      omega
    · rw [if_neg short]
      exact not_lt.mp short

/-- An id of zeros is not left as it is. -/
theorem properId_of_length {output : Bytes} {len : Nat} (size : output.length = len) (positive : 0 < len) :
    ProperId (if output.all (· == 0) then output.set 0 1 else output) len := by
  cases zero : output.all (· == 0) with
  | true =>
    rw [if_pos rfl]
    cases output with
    | nil => exact absurd size positive.ne
    | cons byte rest => exact ⟨size, by simp⟩
  | false =>
    rw [if_neg Bool.false_ne_true]
    exact ⟨size, zero⟩

theorem fallbackId_proper (seed : Bytes) {len : Nat} (positive : 0 < len) : ProperId (fallbackId seed len) len := by
  apply properId_of_length _ positive
  rw [List.length_take, Nat.min_eq_left]
  apply le_length_fallbackFrom
  rw [List.length_nil]
  omega

/-! ### The ids of a span -/

theorem properId_getD {stored : Option String} {len : Nat} {fallback : Bytes} (made : ProperId fallback len) :
    ProperId ((stored.bind (hexDecodeFixed · len)).getD fallback) len := by
  cases read : stored.bind (hexDecodeFixed · len) with
  | none => exact made
  | some id =>
    obtain ⟨value, -, decoded⟩ := Option.bind_eq_some_iff.mp read
    exact properId_of_hexDecodeFixed decoded

theorem getD_of_stored {stored : Option String} {len : Nat} {id fallback : Bytes} (proper : ProperId id len)
    (written : stored = some (hexEncode id)) : (stored.bind (hexDecodeFixed · len)).getD fallback = id := by
  rw [written, Option.bind_some, hexDecodeFixed_proper proper, Option.getD_some]

/-- For every record: the ids of its span are valid, and an id that is stored is the one that is sent. -/
theorem span_ids_proper (record : TelemetryRecord) :
    (ProperId (recordToSpan record).traceId 16 ∧ ProperId (recordToSpan record).spanId 8 ∧
      ((recordToSpan record).parentSpanId = [] ∨ ProperId (recordToSpan record).parentSpanId 8)) ∧
    (∀ id, ProperId id 16 → findAttribute record "otel.trace_id" = some (hexEncode id) →
      (recordToSpan record).traceId = id) ∧
    (∀ id, ProperId id 8 → findAttribute record "otel.span_id" = some (hexEncode id) →
      (recordToSpan record).spanId = id) ∧
    ∀ id, ProperId id 8 → findAttribute record "otel.parent_span_id" = some (hexEncode id) →
      (recordToSpan record).parentSpanId = id := by
  have parent : (recordToSpan record).parentSpanId = [] ∨ ProperId (recordToSpan record).parentSpanId 8 := by
    show ((findAttribute record "otel.parent_span_id").bind (hexDecodeFixed · 8)).getD [] = [] ∨
      ProperId (((findAttribute record "otel.parent_span_id").bind (hexDecodeFixed · 8)).getD []) 8
    cases read : (findAttribute record "otel.parent_span_id").bind (hexDecodeFixed · 8) with
    | none => exact .inl rfl
    | some id =>
      obtain ⟨value, -, decoded⟩ := Option.bind_eq_some_iff.mp read
      exact .inr (properId_of_hexDecodeFixed decoded)
  refine ⟨⟨?_, ?_, parent⟩, ?_, ?_, ?_⟩
  · exact properId_getD (fallbackId_proper _ (by decide))
  · exact properId_getD (fallbackId_proper _ (by decide))
  · exact fun id proper written => getD_of_stored proper written
  · exact fun id proper written => getD_of_stored proper written
  · exact fun id proper written => getD_of_stored proper written

/-- A record with the three ids, in lower case as they are stored. -/
def identifiedRecord : TelemetryRecord :=
  ⟨"tenant", .trace, 0, [⟨"otel.trace_id", hexEncode (List.replicate 16 0xab)⟩,
    ⟨"otel.span_id", hexEncode [0, 0, 0, 0, 0, 0, 0, 1]⟩,
    ⟨"otel.parent_span_id", hexEncode [1, 0, 0, 0, 0, 0, 0, 0]⟩], []⟩

theorem span_ids_proper_identified :
    (recordToSpan identifiedRecord).traceId = List.replicate 16 0xab ∧
      (recordToSpan identifiedRecord).spanId = [0, 0, 0, 0, 0, 0, 0, 1] ∧
      (recordToSpan identifiedRecord).parentSpanId = [1, 0, 0, 0, 0, 0, 0, 0] := by
  obtain ⟨-, trace, span, parent⟩ := span_ids_proper identifiedRecord
  exact ⟨trace _ ⟨by decide, by decide⟩ (by decide), span _ ⟨by decide, by decide⟩ (by decide),
    parent _ ⟨by decide, by decide⟩ (by decide)⟩

end TelemetryFabric.Otlp
