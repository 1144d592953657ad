import TelemetryFabric.Library.LittleEndian

/-!
The Snappy block format: the length of the uncompressed bytes as a varint, then elements that are
literals or copies of what has been produced. A block is accepted if its elements end with the block
and produce as many bytes as announced.
-/

namespace TelemetryFabric.Library.Snappy

/-! ### Varints -/

/-- The number at the front, seven bits a byte, and what follows it. -/
def readVarint : Bytes → Option (Nat × Bytes)
  | [] => none
  | byte :: rest =>
      if byte.toNat < 128 then some (byte.toNat, rest)
      else (readVarint rest).map fun (high, rest) => (byte.toNat - 128 + 128 * high, rest)

/-- A number as its varint, by the recursion that reads it. -/
inductive Varint : Nat → Bytes → Prop where
  | last {value : Nat} (small : value < 128) : Varint value [UInt8.ofNat value]
  | more {value : Nat} {rest : Bytes} (high : Varint (value / 128) rest) :
      Varint value (UInt8.ofNat (value % 128 + 128) :: rest)

theorem Varint.read {value : Nat} {bytes : Bytes} (varint : Varint value bytes) (rest : Bytes) :
    readVarint (bytes ++ rest) = some (value, rest) := by
  induction varint with
  | @last value small =>
    have byte : (UInt8.ofNat value).toNat = value := by
      rw [UInt8.toNat_ofNat', Nat.mod_eq_of_lt (by omega)]
    rw [List.cons_append, readVarint, byte, if_pos small, List.nil_append]
  | @more value tail high ih =>
    have byte : (UInt8.ofNat (value % 128 + 128)).toNat = value % 128 + 128 := by
      rw [UInt8.toNat_ofNat', Nat.mod_eq_of_lt (by omega)]
    have whole : value % 128 + 128 - 128 + 128 * (value / 128) = value := by omega
    rw [List.cons_append, readVarint, byte, if_neg (by omega), ih]
    simp only [Option.map_some, whole]

/-! ### Elements -/

def takeLiteral (length : Nat) (produced stream : Bytes) : Option (Bytes × Bytes) :=
  if length ≤ stream.length then some (produced ++ stream.take length, stream.drop length) else none

/-- `length` bytes that repeat what stands `offset` bytes back, byte by byte. -/
def copyBack (offset : Nat) : Nat → Bytes → Option Bytes
  | 0, produced => some produced
  | length + 1, produced =>
      if offset = 0 ∨ produced.length < offset then none
      else (produced[produced.length - offset]?).bind fun byte => copyBack offset length (produced ++ [byte])

def takeCopy (length width high : Nat) (produced stream : Bytes) : Option (Bytes × Bytes) :=
  if width ≤ stream.length then
    (copyBack (256 * high + ofLittleEndian (stream.take width)) length produced).map fun produced =>
      (produced, stream.drop width)
  else none

/-- One element. The two low bits of its tag say what it is. -/
def readElement (produced : Bytes) : Bytes → Option (Bytes × Bytes)
  | [] => none
  | tag :: stream =>
      let upper := tag.toNat / 4
      match tag.toNat % 4 with
      | 0 =>
          if upper < 60 then takeLiteral (upper + 1) produced stream
          else if upper - 59 ≤ stream.length then
            takeLiteral (ofLittleEndian (stream.take (upper - 59)) + 1) produced (stream.drop (upper - 59))
          else none
      | 1 => takeCopy (upper % 8 + 4) 1 (upper / 8) produced stream
      | 2 => takeCopy (upper + 1) 2 0 produced stream
      | _ => takeCopy (upper + 1) 4 0 produced stream

/-- Elements up to the end of the stream; every one takes a byte of it at least. -/
def readElements : Nat → Bytes → Bytes → Option Bytes
  | _, produced, [] => some produced
  | 0, _, _ :: _ => none
  | fuel + 1, produced, byte :: stream =>
      (readElement produced (byte :: stream)).bind fun (produced, rest) => readElements fuel produced rest

/-- The bytes a block stands for. -/
def decode (block : Bytes) : Option Bytes := do
  let (length, elements) ← readVarint block
  let produced ← readElements elements.length [] elements
  if length < 2 ^ 32 ∧ produced.length = length then some produced else none

/-! ### Literals -/

/-- The tag of a literal and, from 61 bytes on, the bytes that hold its length less one. -/
inductive LiteralTag : Nat → Bytes → Prop where
  | short {less : Nat} (small : less < 60) : LiteralTag (less + 1) [UInt8.ofNat (4 * less)]
  | long {bytes : Bytes} (present : 1 ≤ bytes.length) (few : bytes.length ≤ 4) :
      LiteralTag (ofLittleEndian bytes + 1) (UInt8.ofNat (4 * (59 + bytes.length)) :: bytes)

theorem takeLiteral_append {literal : Bytes} (produced rest : Bytes) :
    takeLiteral literal.length produced (literal ++ rest) = some (produced ++ literal, rest) := by
  have enough : literal.length ≤ (literal ++ rest).length := by
    rw [List.length_append]
    omega
  rw [takeLiteral, if_pos enough, List.take_left, List.drop_left]

theorem LiteralTag.readElement {literal tag : Bytes} (tagged : LiteralTag literal.length tag) (produced rest : Bytes) :
    readElement produced (tag ++ (literal ++ rest)) = some (produced ++ literal, rest) := by
  generalize size : literal.length = length at tagged
  cases tagged with
  | @short less small =>
    have byte : (UInt8.ofNat (4 * less)).toNat = 4 * less := by
      rw [UInt8.toNat_ofNat', Nat.mod_eq_of_lt (by omega)]
    have upper : 4 * less / 4 = less := by omega
    have kind : 4 * less % 4 = 0 := by omega
    simp only [List.cons_append, List.nil_append, Snappy.readElement, byte, upper, kind, if_pos small]
    rw [← size]
    exact takeLiteral_append produced rest
  | @long bytes present few =>
    have byte : (UInt8.ofNat (4 * (59 + bytes.length))).toNat = 4 * (59 + bytes.length) := by
      rw [UInt8.toNat_ofNat', Nat.mod_eq_of_lt (by omega)]
    have upper : 4 * (59 + bytes.length) / 4 = 59 + bytes.length := by omega
    have kind : 4 * (59 + bytes.length) % 4 = 0 := by omega
    have width : 59 + bytes.length - 59 = bytes.length := by omega
    have enough : bytes.length ≤ (bytes ++ (literal ++ rest)).length := by
      rw [List.length_append]
      omega
    have large : ¬59 + bytes.length < 60 := by omega
    simp only [List.cons_append, Snappy.readElement, byte, upper, kind, width, if_neg large, if_pos enough,
      List.take_left, List.drop_left]
    rw [← size]
    exact takeLiteral_append produced rest

theorem LiteralTag.exists_cons {length : Nat} {tag : Bytes} (tagged : LiteralTag length tag) :
    ∃ byte tail, tag = byte :: tail := by
  cases tagged with
  | short => exact ⟨_, _, rfl⟩
  | long => exact ⟨_, _, rfl⟩

/-- Literals one after the other produce their bytes and leave nothing behind. -/
theorem readElements_literals {elements : List (Bytes × Bytes)}
    (tagged : ∀ element ∈ elements, LiteralTag element.2.length element.1) (produced : Bytes) {fuel : Nat}
    (enough : (elements.flatMap fun element => element.1 ++ element.2).length ≤ fuel) :
    readElements fuel produced (elements.flatMap fun element => element.1 ++ element.2) =
      some (produced ++ elements.flatMap Prod.snd) := by
  induction elements generalizing produced fuel with
  | nil =>
    have nothing : readElements fuel produced [] = some produced := by
      cases fuel <;> rfl
    simpa only [List.flatMap_nil, List.append_nil] using nothing
  | cons element rest ih =>
    have first := tagged element (by simp)
    obtain ⟨tag, tail, shape⟩ := first.exists_cons
    have step := first.readElement produced (rest.flatMap fun element => element.1 ++ element.2)
    rw [List.flatMap_cons, List.append_assoc] at enough ⊢
    rw [shape, List.cons_append] at enough step ⊢
    cases fuel with
    | zero => exact absurd enough (Nat.not_succ_le_zero _)
    | succ fuel =>
      have still : (rest.flatMap fun element => element.1 ++ element.2).length ≤ fuel := by
        simp only [List.length_cons, List.length_append] at enough
        omega
      have later := ih (fun other member => tagged other (List.mem_cons_of_mem _ member)) (produced ++ element.2) still
      rw [readElements, step, Option.bind_some, List.flatMap_cons, ← List.append_assoc]
      exact later

/-- A varint of the length and literals for the bytes are a block of them. -/
theorem decode_literals {elements : List (Bytes × Bytes)} {header : Bytes}
    (tagged : ∀ element ∈ elements, LiteralTag element.2.length element.1)
    (announced : Varint (elements.flatMap Prod.snd).length header) (fits : (elements.flatMap Prod.snd).length < 2 ^ 32) :
    decode (header ++ elements.flatMap fun element => element.1 ++ element.2) = some (elements.flatMap Prod.snd) := by
  have all := readElements_literals tagged [] (Nat.le_refl _)
  rw [List.nil_append] at all
  rw [decode, announced.read, Option.bind_eq_bind, Option.bind_some]
  change (readElements _ [] _ >>= _) = _
  rw [all, Option.bind_eq_bind, Option.bind_some]
  exact if_pos ⟨fits, rfl⟩

end TelemetryFabric.Library.Snappy
