import TelemetryFabric.Library.Text
import TelemetryFabric.Library.Utf8
import Mathlib.Data.Bool.AllAny

/-! Fixed-width integers and byte strings as text: what `Display` writes, what `parse` reads,
comma-separated lists, and hexadecimal digits. The text of a double is left open, up to what
the standard library promises for it. -/

namespace TelemetryFabric.Library

/-! ### Integers -/

/-- At least one digit and nothing else. -/
def parseDigits (text : List Char) : Option Nat :=
  if text ≠ [] ∧ text.all Char.isDigit = true then some (Nat.ofDigitChars 10 text 0) else none

/-- `parse` for an unsigned type with `limit` values. -/
def parseUnsigned (limit : Nat) : List Char → Option Nat
  | '+' :: digits => (parseDigits digits).filter (· < limit)
  | digits => (parseDigits digits).filter (· < limit)

/-- `parse` for a signed type whose least value is `-half`. -/
def parseSigned (half : Nat) : List Char → Option Int
  | '-' :: digits => ((parseDigits digits).filter (· ≤ half)).map fun value => -(value : Int)
  | '+' :: digits => ((parseDigits digits).filter (· < half)).map Int.ofNat
  | digits => ((parseDigits digits).filter (· < half)).map Int.ofNat

/-- A signed decimal number of any size. -/
def parseInteger : List Char → Option Int
  | '-' :: digits => (parseDigits digits).map fun value => -(value : Int)
  | '+' :: digits => (parseDigits digits).map Int.ofNat
  | digits => (parseDigits digits).map Int.ofNat

def decimalInt : Int → List Char
  | .ofNat value => decimal value
  | .negSucc value => '-' :: decimal (value + 1)

theorem parseDigits_decimal (value : Nat) : parseDigits (decimal value) = some value := by
  have all : decimal value ≠ [] ∧ (decimal value).all Char.isDigit = true :=
    ⟨decimal_ne_nil value, List.all_eq_true.mpr fun c member => decimal_isDigit member⟩
  unfold parseDigits
  rw [if_pos all]
  exact congrArg some Nat.ofDigitChars_ten_toDigits

theorem decimal_ne_cons {value : Nat} {c : Char} (other : c.isDigit = false) (rest : List Char) :
    decimal value ≠ c :: rest := by
  intro same
  have member : c ∈ decimal value := by simp [same]
  rw [decimal_isDigit member] at other
  cases other

theorem parseUnsigned_decimal {limit value : Nat} (bound : value < limit) :
    parseUnsigned limit (decimal value) = some value := by
  unfold parseUnsigned
  split
  next digits same => exact absurd same (decimal_ne_cons (by decide) digits)
  next => simp [parseDigits_decimal, bound]

theorem parseInteger_decimal (value : Nat) : parseInteger (decimal value) = some (value : Int) := by
  unfold parseInteger
  split
  next digits same => exact absurd same (decimal_ne_cons (by decide) digits)
  next digits same => exact absurd same (decimal_ne_cons (by decide) digits)
  next => rw [parseDigits_decimal]; rfl

theorem parseSigned_decimalInt (half : Nat) {value : Int} (lower : -(half : Int) ≤ value)
    (upper : value < half) : parseSigned half (decimalInt value) = some value := by
  cases value with
  | ofNat magnitude =>
    have bound : magnitude < half := by
      change (magnitude : Int) < half at upper
      omega
    unfold parseSigned decimalInt
    split
    next digits same => exact absurd same (decimal_ne_cons (by decide) digits)
    next digits same => exact absurd same (decimal_ne_cons (by decide) digits)
    next => simp [parseDigits_decimal, bound]
  | negSucc magnitude =>
    have bound : magnitude + 1 ≤ half := by
      rw [Int.negSucc_eq] at lower
      omega
    simp only [decimalInt, parseSigned, parseDigits_decimal, Option.filter_some, bound, decide_true, if_true,
      Int.negSucc_eq]
    simp

def showU64 (value : UInt64) : String := String.ofList (decimal value.toNat)

def readU64 (text : String) : Option UInt64 := (parseUnsigned (2 ^ 64) text.toList).map UInt64.ofNat

def showU32 (value : UInt32) : String := String.ofList (decimal value.toNat)

def readU32 (text : String) : Option UInt32 := (parseUnsigned (2 ^ 32) text.toList).map UInt32.ofNat

def showI32 (value : Int32) : String := String.ofList (decimalInt value.toInt)

def readI32 (text : String) : Option Int32 := (parseSigned (2 ^ 31) text.toList).map Int32.ofInt

def showI64 (value : Int64) : String := String.ofList (decimalInt value.toInt)

def readI64 (text : String) : Option Int64 := (parseSigned (2 ^ 63) text.toList).map Int64.ofInt

def showBool (value : Bool) : String := if value then "true" else "false"

def readBool (text : String) : Option Bool :=
  if text = "true" then some true else if text = "false" then some false else none

@[simp] theorem readU64_showU64 (value : UInt64) : readU64 (showU64 value) = some value := by
  simp [readU64, showU64, parseUnsigned_decimal value.toNat_lt]

@[simp] theorem readU32_showU32 (value : UInt32) : readU32 (showU32 value) = some value := by
  simp [readU32, showU32, parseUnsigned_decimal value.toNat_lt]

@[simp] theorem readI32_showI32 (value : Int32) : readI32 (showI32 value) = some value := by
  simp [readI32, showI32, parseSigned_decimalInt (2 ^ 31) value.le_toInt value.toInt_lt]

@[simp] theorem readI64_showI64 (value : Int64) : readI64 (showI64 value) = some value := by
  simp [readI64, showI64, parseSigned_decimalInt (2 ^ 63) value.le_toInt value.toInt_lt]

@[simp] theorem readBool_showBool (value : Bool) : readBool (showBool value) = some value := by
  cases value <;> decide

/-! ### Lists -/

/-- `str::trim`. -/
def trim (text : List Char) : List Char :=
  ((text.dropWhile isWhitespace).reverse.dropWhile isWhitespace).reverse

theorem dropWhile_eq_self {α : Type} {p : α → Bool} {items : List α} (none : ∀ item ∈ items, p item = false) :
    items.dropWhile p = items := by
  cases items with
  | nil => rfl
  | cons item rest => rw [List.dropWhile_cons_of_neg (by simp [none item List.mem_cons_self])]

theorem trim_of_solid {text : List Char} (solid : ∀ c ∈ text, isWhitespace c = false) : trim text = text := by
  unfold trim
  rw [dropWhile_eq_self solid, dropWhile_eq_self, List.reverse_reverse]
  intro c member
  exact solid c (List.mem_reverse.mp member)

theorem trim_within (text : List Char) : trim text <:+: text := by
  have front : trim text <+: text.dropWhile isWhitespace := by
    rw [← List.reverse_suffix, trim, List.reverse_reverse]
    exact List.dropWhile_suffix _
  exact front.isInfix.trans (List.dropWhile_suffix _).isInfix

/-- `str::split_once`. -/
def splitOnce (separator : Char) (text : List Char) : Option (List Char × List Char) :=
  match text.dropWhile (· != separator) with
  | _ :: rest => some (text.takeWhile (· != separator), rest)
  | [] => none

theorem splitOnce_append {separator : Char} {first rest : List Char} (absent : separator ∉ first) :
    splitOnce separator (first ++ separator :: rest) = some (first, rest) := by
  have others : ∀ c ∈ first, (c != separator) = true := by
    intro c member
    have other : c ≠ separator := fun same => absent (same ▸ member)
    simpa using other
  unfold splitOnce
  rw [List.dropWhile_append_of_pos others, List.takeWhile_append_of_pos others]
  simp

/-- `collect::<Vec<_>>().join(",")` over rendered items. -/
def joinWith {α : Type} (render : α → List Char) (items : List α) : String :=
  String.ofList ([','].intercalate (items.map render))

/-- The items of a comma-separated list that can be read. -/
def readList {α : Type} (read : List Char → Option α) (text : String) : List α :=
  (text.toList.splitOn ',').filterMap fun item => read (trim item)

/-- Rendered items without commas or white space are read back, and none from none. -/
theorem readList_joinWith {α : Type} {render : α → List Char} {read : List Char → Option α}
    (items : List α) (clean : ∀ item ∈ items, ∀ c ∈ render item, c ≠ ',' ∧ isWhitespace c = false)
    (back : ∀ item ∈ items, read (render item) = some item) (nothing : read [] = none) :
    readList read (joinWith render items) = items := by
  unfold readList joinWith
  rw [String.toList_ofList]
  cases items with
  | nil => simp [trim, nothing]
  | cons first rest =>
    rw [List.splitOn_intercalate]
    · rw [List.filterMap_map]
      have each : ∀ item ∈ first :: rest, read (trim (render item)) = some item := by
        intro item member
        rw [trim_of_solid fun c inside => (clean item member c inside).2]
        exact back item member
      exact (List.filterMap_congr each).trans List.filterMap_some
    · intro text member
      obtain ⟨item, inside, rfl⟩ := List.mem_map.mp member
      intro comma
      exact (clean item inside ',' comma).1 rfl
    · simp

/-! ### Doubles -/

/-- The 64 bits of a double. -/
abbrev Double := BitVec 64

/-- An exponent field of all ones is an infinity or not a number. -/
def Double.isFinite (value : Double) : Bool := value.extractLsb' 52 11 != 0x7ff#11

/-- `Display` and `parse` of doubles. -/
structure DoubleText where
  render : Double → List Char
  parse : List Char → Option Double

/-- What is promised of them: finite doubles are written as plain decimal numbers and are read
back, and nothing is read from the empty text. -/
structure DoubleText.Lawful (doubles : DoubleText) : Prop where
  parse_render : ∀ value : Double, value.isFinite = true → doubles.parse (doubles.render value) = some value
  plain : ∀ value : Double, value.isFinite = true → ∀ c ∈ doubles.render value,
    c.isDigit = true ∨ c = '-' ∨ c = '.'
  parse_nil : doubles.parse [] = none

/-- Zero and one and a half as they are written, everything else by its bits. -/
def DoubleText.byBits : DoubleText where
  render value :=
    if value = 0 then ['0'] else if value = 0x3ff8000000000000 then ['1', '.', '5']
    else decimal value.toNat ++ ['.']
  parse text :=
    if text = ['0'] then some 0 else if text = ['1', '.', '5'] then some 0x3ff8000000000000
    else (parseDigits text.dropLast).map (BitVec.ofNat 64)

theorem DoubleText.byBits_lawful : DoubleText.byBits.Lawful where
  parse_render value finite := by
    have ends : ∀ digits text : List Char, text.getLast? ≠ some '.' → digits ++ ['.'] ≠ text := by
      intro digits text other same
      rw [← same, List.getLast?_concat] at other
      exact other rfl
    by_cases zero : value = 0
    · subst zero
      decide
    · by_cases half : value = 0x3ff8000000000000
      · subst half
        decide
      · simp only [byBits, if_neg zero, if_neg half]
        rw [if_neg (ends _ _ (by decide)), if_neg (ends _ _ (by decide)), List.dropLast_concat, parseDigits_decimal]
        simp
  plain value finite c member := by
    simp only [byBits] at member
    split_ifs at member with zero half
    · rw [List.mem_singleton.mp member]
      decide
    · revert c
      exact List.all_iff_forall_prop.mp (by decide)
    · rcases List.mem_append.mp member with digit | dot
      · exact .inl (decimal_isDigit digit)
      · exact .inr (.inr (List.mem_singleton.mp dot))
  parse_nil := by decide

/-! ### Hexadecimal -/

def hexDigit (value : Nat) : Char :=
  ['0', '1', '2', '3', '4', '5', '6', '7', '8', '9', 'a', 'b', 'c', 'd', 'e', 'f'].getD value '0'

def hexEncode (bytes : List UInt8) : String :=
  String.ofList (bytes.flatMap fun byte => [hexDigit (byte.toNat / 16), hexDigit (byte.toNat % 16)])

def hexValue (byte : UInt8) : Option UInt8 :=
  if 0x30 ≤ byte ∧ byte ≤ 0x39 then some (byte - 0x30)
  else if 0x61 ≤ byte ∧ byte ≤ 0x66 then some (byte - 0x61 + 10)
  else if 0x41 ≤ byte ∧ byte ≤ 0x46 then some (byte - 0x41 + 10)
  else none

def hexPairs : List UInt8 → Option (List UInt8)
  | high :: low :: rest => do
      let high ← hexValue high
      let low ← hexValue low
      return (high <<< 4 ||| low) :: (← hexPairs rest)
  | _ => some []

/-- Hexadecimal digits for exactly `expectedLen` bytes, not all of them zero. -/
def hexDecodeFixed (value : String) (expectedLen : Nat) : Option (List UInt8) :=
  if (utf8 value).length ≠ expectedLen * 2 then none
  else (hexPairs (utf8 value)).filter fun output => !output.all (· == 0)

theorem utf8_ofList_cons (c : Char) (rest : List Char) :
    utf8 (String.ofList (c :: rest)) = String.utf8EncodeChar c ++ utf8 (String.ofList rest) := by
  unfold utf8
  rw [String.toByteArray_ofList, String.toByteArray_ofList, List.utf8Encode_cons]
  simp [List.utf8Encode]

theorem utf8EncodeChar_hexDigit : ∀ value < 16,
    String.utf8EncodeChar (hexDigit value) = [UInt8.ofNat (hexDigit value).toNat] ∧
      hexValue (UInt8.ofNat (hexDigit value).toNat) = some (UInt8.ofNat value) := by
  decide +kernel

theorem utf8_hexEncode_cons (byte : UInt8) (rest : List UInt8) :
    ∃ high low, utf8 (hexEncode (byte :: rest)) = high :: low :: utf8 (hexEncode rest) ∧
      hexValue high = some (UInt8.ofNat (byte.toNat / 16)) ∧
      hexValue low = some (UInt8.ofNat (byte.toNat % 16)) := by
  have bound : byte.toNat < 256 := byte.toNat_lt
  obtain ⟨highText, highRead⟩ := utf8EncodeChar_hexDigit (byte.toNat / 16) (by omega)
  obtain ⟨lowText, lowRead⟩ := utf8EncodeChar_hexDigit (byte.toNat % 16) (by omega)
  refine ⟨_, _, ?_, highRead, lowRead⟩
  unfold hexEncode
  rw [List.flatMap_cons]
  simp only [List.cons_append, List.nil_append, utf8_ofList_cons, highText, lowText]

theorem length_utf8_hexEncode (bytes : List UInt8) : (utf8 (hexEncode bytes)).length = bytes.length * 2 := by
  induction bytes with
  | nil => rfl
  | cons byte rest ih =>
    obtain ⟨high, low, text, -, -⟩ := utf8_hexEncode_cons byte rest
    rw [text, List.length_cons, List.length_cons, ih, List.length_cons]
    omega

theorem nibbles (byte : UInt8) :
    UInt8.ofNat (byte.toNat / 16) <<< 4 ||| UInt8.ofNat (byte.toNat % 16) = byte := by
  have all : ∀ value < 256, UInt8.ofNat (value / 16) <<< 4 ||| UInt8.ofNat (value % 16) = UInt8.ofNat value := by
    decide +kernel
  simpa using all byte.toNat byte.toNat_lt

theorem hexPairs_hexEncode (bytes : List UInt8) : hexPairs (utf8 (hexEncode bytes)) = some bytes := by
  induction bytes with
  | nil => rfl
  | cons byte rest ih =>
    obtain ⟨high, low, text, highRead, lowRead⟩ := utf8_hexEncode_cons byte rest
    rw [text]
    simp [hexPairs, highRead, lowRead, ih, nibbles]

theorem hexDecodeFixed_hexEncode {bytes : List UInt8} {len : Nat} (size : bytes.length = len)
    (some : bytes.all (· == 0) = false) : hexDecodeFixed (hexEncode bytes) len = .some bytes := by
  unfold hexDecodeFixed
  rw [if_neg (by rw [length_utf8_hexEncode, size]; exact not_not.mpr rfl), hexPairs_hexEncode]
  simp [some]

/-- Digits for another number of bytes are not read. -/
theorem hexDecodeFixed_of_length {bytes : List UInt8} {len : Nat} (size : bytes.length ≠ len) :
    hexDecodeFixed (hexEncode bytes) len = none := by
  unfold hexDecodeFixed
  rw [if_pos]
  rw [length_utf8_hexEncode]
  omega

end TelemetryFabric.Library
