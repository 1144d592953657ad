import Mathlib.Tactic.SplitIfs
import TelemetryFabric.Library.Snappy

/-!
The compressor of the remote-write exporter. It writes literals only, of 64 KiB at most, each with
the shortest tag its length has room in.
-/

namespace TelemetryFabric.Exporters
open Library

/-- Seven bits a byte, and the high bit while more follow. -/
def writeSnappyVarint (value : Nat) : Bytes :=
  if value ≥ 0x80 then ((UInt8.ofNat value &&& 0x7f) ||| 0x80) :: writeSnappyVarint (value >>> 7)
  else [UInt8.ofNat value]
termination_by value
decreasing_by
  rw [Nat.shiftRight_eq_div_pow]
  omega

/-- `Iterator::rposition`. -/
def rposition {α : Type} (test : α → Bool) : List α → Option Nat
  | [] => none
  | item :: rest =>
      match rposition test rest with
      | some index => some (index + 1)
      | none => if test item then some 0 else none

def writeSnappyLiteralTag (length : Nat) : Bytes :=
  if length = 0 then []
  else
    let lengthMinusOne := length - 1
    if lengthMinusOne < 60 then [UInt8.ofNat lengthMinusOne <<< 2]
    else
      let lengthBytes := littleEndian 4 (lengthMinusOne % 2 ^ 32)
      let bytesUsed := ((rposition (fun byte => byte != 0) lengthBytes).map (· + 1)).getD 1
      (UInt8.ofNat (59 + bytesUsed) <<< 2) :: lengthBytes.take bytesUsed

/-- `slice::chunks`: pieces of `size`, the last one shorter if need be. -/
def chunks {α : Type} (size : Nat) (items : List α) : List (List α) :=
  if items.length = 0 ∨ size = 0 then [] else items.take size :: chunks size (items.drop size)
termination_by items.length
decreasing_by
  rw [List.length_drop]
  omega

def snappyCompressLiteral (input : Bytes) : Bytes :=
  writeSnappyVarint input.length ++ (chunks 65536 input).flatMap fun chunk => writeSnappyLiteralTag chunk.length ++ chunk

/-! ### What is written -/

theorem varint_writeSnappyVarint (value : Nat) : Snappy.Varint value (writeSnappyVarint value) := by
  induction value using Nat.strongRecOn with
  | ind value ih =>
    rw [writeSnappyVarint]
    by_cases large : value ≥ 0x80
    · rw [if_pos large, Nat.shiftRight_eq_div_pow]
      have byte : (UInt8.ofNat value &&& 0x7f) ||| 0x80 = UInt8.ofNat (value % 128 + 128) := by
        apply UInt8.toNat_inj.mp
        have low : (UInt8.ofNat value &&& 0x7f).toNat = value % 128 := by
          rw [UInt8.toNat_and, UInt8.toNat_ofNat']
          change value % 256 &&& (2 ^ 7 - 1) = _
          rw [Nat.and_two_pow_sub_one_eq_mod]
          omega
        rw [UInt8.toNat_or, low, UInt8.toNat_ofNat']
        change value % 128 ||| 2 ^ 7 * 1 = _
        rw [Nat.or_comm, ← Nat.two_pow_add_eq_or_of_lt (by omega)]
        omega
      rw [byte]
      exact .more (ih (value / 2 ^ 7) (by omega))
    · rw [if_neg large]
      exact .last (by omega)

/-- Up to the last byte that is not zero, the bytes hold the whole number. -/
theorem ofLittleEndian_take_rposition (bytes : Bytes) :
    match rposition (fun byte => byte != 0) bytes with
    | some index => index < bytes.length ∧ ofLittleEndian (bytes.take (index + 1)) = ofLittleEndian bytes
    | none => ofLittleEndian bytes = 0 := by
  induction bytes with
  | nil => rfl
  | cons byte rest ih =>
    rw [rposition]
    cases found : rposition (fun byte => byte != 0) rest with
    | some index =>
      rw [found] at ih
      constructor
      · exact Nat.succ_lt_succ ih.1
      · rw [List.take_succ_cons, ofLittleEndian, ofLittleEndian, ih.2]
    | none =>
      rw [found] at ih
      have high : ofLittleEndian rest = 0 := ih
      by_cases zero : byte = 0
      · rw [zero]
        change ofLittleEndian (0 :: rest) = 0
        rw [ofLittleEndian, high]
        rfl
      · rw [if_pos (bne_iff_ne.mpr zero)]
        constructor
        · exact Nat.zero_lt_succ _
        · simp only [List.take_succ_cons, List.take_zero, ofLittleEndian, high]

theorem shiftLeft_two (value : Nat) : UInt8.ofNat value <<< 2 = UInt8.ofNat (4 * value) := by
  apply UInt8.toNat_inj.mp
  rw [UInt8.toNat_shiftLeft, UInt8.toNat_ofNat', UInt8.toNat_ofNat']
  change (value % 256) <<< 2 % 256 = _
  rw [Nat.shiftLeft_eq]
  omega

theorem literalTag_writeSnappyLiteralTag {length : Nat} (positive : 0 < length) (fits : length ≤ 2 ^ 32) :
    Snappy.LiteralTag length (writeSnappyLiteralTag length) := by
  obtain ⟨less, rfl⟩ : ∃ less, length = less + 1 := ⟨length - 1, by omega⟩
  rw [writeSnappyLiteralTag, if_neg (by omega), Nat.add_sub_cancel]
  by_cases small : less < 60
  · simp only [if_pos small]
    rw [shiftLeft_two]
    exact .short small
  · simp only [if_neg small]
    have value : ofLittleEndian (littleEndian 4 (less % 2 ^ 32)) = less := by
      rw [ofLittleEndian_littleEndian 4 _ (by omega)]
      omega
    have whole := ofLittleEndian_take_rposition (littleEndian 4 (less % 2 ^ 32))
    cases found : rposition (fun byte => byte != 0) (littleEndian 4 (less % 2 ^ 32)) with
    | none =>
      rw [found] at whole
      have nothing : ofLittleEndian (littleEndian 4 (less % 2 ^ 32)) = 0 := whole
      omega
    | some index =>
      rw [found] at whole
      obtain ⟨inside, kept⟩ := whole
      rw [length_littleEndian] at inside
      have used : ((littleEndian 4 (less % 2 ^ 32)).take (index + 1)).length = index + 1 := by
        rw [List.length_take, length_littleEndian]
        omega
      have tagged := @Snappy.LiteralTag.long ((littleEndian 4 (less % 2 ^ 32)).take (index + 1)) (by omega) (by omega)
      rw [kept, value, used] at tagged
      simp only [Option.map_some, Option.getD_some]
      rw [shiftLeft_two]
      exact tagged

theorem flatten_chunks {α : Type} {size : Nat} (positive : 0 < size) (items : List α) : (chunks size items).flatten = items := by
  induction length : items.length using Nat.strongRecOn generalizing items with
  | ind length ih =>
    rw [chunks]
    by_cases done : items.length = 0 ∨ size = 0
    · rw [if_pos done]
      have empty : items = [] := List.length_eq_zero_iff.mp (by omega)
      rw [empty]
      rfl
    · rw [if_neg done, List.flatten_cons, ih (items.drop size).length (by rw [List.length_drop]; omega) _ rfl,
        List.take_append_drop]

theorem length_of_mem_chunks {α : Type} {size : Nat} {items chunk : List α} (member : chunk ∈ chunks size items) :
    0 < chunk.length ∧ chunk.length ≤ size := by
  induction length : items.length using Nat.strongRecOn generalizing items with
  | ind length ih =>
    rw [chunks] at member
    by_cases done : items.length = 0 ∨ size = 0
    · rw [if_pos done] at member
      exact nomatch member
    · rw [if_neg done] at member
      rcases List.mem_cons.mp member with rfl | later
      · rw [List.length_take]
        omega
      · exact ih (items.drop size).length (by rw [List.length_drop]; omega) later rfl

/-! ### Reading it back -/

/-- What is written is a block of the format: it announces the length of the input, decodes to the input and
ends there. -/
theorem decode_snappyCompressLiteral {input : Bytes} (fits : input.length < 2 ^ 32) :
    (∃ elements, Snappy.readVarint (snappyCompressLiteral input) = some (input.length, elements) ∧
      Snappy.readElements elements.length [] elements = some input) ∧
    Snappy.decode (snappyCompressLiteral input) = some input := by
  have tagged : ∀ element ∈ (chunks 65536 input).map fun chunk => (writeSnappyLiteralTag chunk.length, chunk),
      Snappy.LiteralTag element.2.length element.1 := by
    intro element member
    obtain ⟨chunk, inside, rfl⟩ := List.mem_map.mp member
    obtain ⟨positive, few⟩ := length_of_mem_chunks inside
    have small : chunk.length ≤ 2 ^ 32 := Nat.le_trans few (by decide)
    exact literalTag_writeSnappyLiteralTag positive small
  have written : (chunks 65536 input).flatMap (fun chunk => writeSnappyLiteralTag chunk.length ++ chunk) =
      ((chunks 65536 input).map fun chunk => (writeSnappyLiteralTag chunk.length, chunk)).flatMap
        fun element => element.1 ++ element.2 := by
    rw [List.flatMap_map]
  have produced : ((chunks 65536 input).map fun chunk => (writeSnappyLiteralTag chunk.length, chunk)).flatMap Prod.snd = input := by
    rw [List.flatMap_map]
    change (chunks 65536 input).flatMap id = input
    rw [List.flatMap_id, flatten_chunks (by decide)]
  have announced := varint_writeSnappyVarint input.length
  constructor
  · refine ⟨_, announced.read _, ?_⟩
    rw [written, Snappy.readElements_literals tagged [] (Nat.le_refl _), produced, List.nil_append]
  · have decoded := Snappy.decode_literals tagged (by rw [produced]; exact announced) (by rw [produced]; exact fits)
    rw [snappyCompressLiteral, written, decoded, produced]

/-- Sixty-one bytes, the least that need a length byte behind the tag. -/
theorem decode_sixty_one : Snappy.decode (snappyCompressLiteral (List.replicate 61 7)) = some (List.replicate 61 7) :=
  (decode_snappyCompressLiteral (by decide)).2

end TelemetryFabric.Exporters
