import TelemetryFabric.ControlPlane.JsonPipeline
import TelemetryFabric.Library.JsonStandard
import TelemetryFabric.Library.OrderedMap

/-!
`decode!`: the parser of request bodies over their bytes, the texts it takes and what it makes of
them. It takes more than the standard has (separators at the end, controls in strings, lone
backslashes, padded numbers, signs in escapes) and less (no surrogates, no exponent without a
fraction), and in two places it fails by another exception than `ArgumentError`.
-/

namespace TelemetryFabric.ControlPlane
open Library Library.JsonText

/-- How `decode!` fails: by an `ArgumentError` of its own or of the runtime, by another exception,
or, in this model only, by running out of steps. -/
inductive DecodeError where
  | argument (message : String)
  | badArgument
  | noMatch
  | noClause
  | unfinished
  deriving DecidableEq

def DecodeError.isArgumentError : DecodeError → Bool
  | .argument _ => true
  | .badArgument => true
  | _ => false

namespace Json

/-! ### Strings -/

/-- `Integer.parse(text, 16)`: what is left goes with the number. -/
def integerParse (text : Bytes) : Option (Int × Bytes) :=
  let digits := (splitSign text).2.takeWhile fun byte => (hexValue byte).isSome
  if digits = [] then none
  else
    let magnitude := digits.foldl (fun value digit => 16 * value + ((hexValue digit).getD 0).toNat) 0
    some (if (splitSign text).1 = [0x2d] then -(magnitude : Int) else magnitude,
      (splitSign text).2.dropWhile fun byte => (hexValue byte).isSome)

/-- `<<codepoint::utf8>>`. -/
def utf8Char (codepoint : Int) : Option Char :=
  if 0 ≤ codepoint ∧ codepoint.toNat.isValidChar then some (Char.ofNat codepoint.toNat) else none

/-- The one-letter escapes of `parse_string`, in the order of its clauses. -/
def unescape (letter : UInt8) : Option Char :=
  if letter = 0x22 then some '"'
  else if letter = 0x5c then some '\\'
  else if letter = 0x2f then some '/'
  else if letter = 0x62 then some '\x08'
  else if letter = 0x66 then some '\x0c'
  else if letter = 0x6e then some '\n'
  else if letter = 0x72 then some '\r'
  else if letter = 0x74 then some '\t'
  else none

inductive StringStep where
  | closed (rest : Bytes)
  | char (c : Char) (rest : Bytes)

/-- The clause with `<<char::utf8, rest::binary>>`. -/
def plainStep (input : Bytes) : Except DecodeError StringStep :=
  match readChar? input with
  | some (c, rest) => .ok (.char c rest)
  | none => .error .noClause

/-- One call of `parse_string`, up to the next one. -/
def stringStep : Bytes → Except DecodeError StringStep
  | [] => .error (.argument "unterminated JSON string")
  | 0x22 :: rest => .ok (.closed rest)
  | 0x5c :: letter :: rest =>
      match unescape letter with
      | some c => .ok (.char c rest)
      | none => match letter, rest with
          | 0x75, first :: second :: third :: fourth :: rest =>
              match integerParse [first, second, third, fourth] with
              | some (codepoint, []) => match utf8Char codepoint with
                  | some c => .ok (.char c rest)
                  | none => .error .badArgument
              | _ => .error .noMatch
          | _, _ => plainStep (backslash :: letter :: rest)
  | input => plainStep input

def parseString : Nat → Bytes → List Char → Except DecodeError (String × Bytes)
  | 0, _, _ => .error .unfinished
  | fuel + 1, input, acc => do
      match ← stringStep input with
      | .closed rest => return (String.ofList acc.reverse, rest)
      | .char c rest => parseString fuel rest (c :: acc)

/-! ### Numbers and blanks -/

def takeNumber : Bytes → Bytes → Bytes × Bytes
  | [], acc => (acc.reverse, [])
  | char :: rest, acc => if isNumberByte char then takeNumber rest (char :: acc) else (acc.reverse, char :: rest)

/-- A byte that only fractions and exponents are written with. -/
def isFloatByte (byte : UInt8) : Bool := byte = 0x2e || byte = 0x65 || byte = 0x45

/-- `String.to_integer`. -/
def toInteger (token : Bytes) : Option Int :=
  if allDigits (splitSign token).2 then
    some (if (splitSign token).1 = [0x2d] then -(digitsValue (splitSign token).2 : Int) else digitsValue (splitSign token).2)
  else none

def skipWs : Bytes → Bytes
  | [] => []
  | char :: rest => if char = 0x20 ∨ char = 0x0a ∨ char = 0x0d ∨ char = 0x09 then skipWs rest else char :: rest

section Values

-- the double next to a decimal, where there is one
variable {F : Type} (nearest : Decimal → Option F)

/-- `String.to_float`: there must be a fraction. -/
def toFloat (token : Bytes) : Option F := do
  let numeral ← readNumeral (splitSign token).2
  if numeral.fraction.isSome then nearest (numeral.decimal ((splitSign token).1 = [0x2d])) else none

/-- What `parse_number` makes of its token. -/
def tokenValue (token : Bytes) : Option (Json F) :=
  if token.any isFloatByte then (toFloat nearest token).map .float else (toInteger token).map .integer

def parseNumber (input : Bytes) : Except DecodeError (Json F × Bytes) :=
  let (token, rest) := takeNumber input []
  match tokenValue nearest token with
  | some value => .ok (value, rest)
  | none => .error .badArgument

mutual

def parseValue : Nat → Bytes → Except DecodeError (Json F × Bytes)
  | 0, _ => .error .unfinished
  | _ + 1, 0x6e :: 0x75 :: 0x6c :: 0x6c :: rest => .ok (.null, rest)
  | _ + 1, 0x74 :: 0x72 :: 0x75 :: 0x65 :: rest => .ok (.boolean true, rest)
  | _ + 1, 0x66 :: 0x61 :: 0x6c :: 0x73 :: 0x65 :: rest => .ok (.boolean false, rest)
  | _ + 1, 0x22 :: rest => do
      let (text, rest) ← parseString (rest.length + 1) rest []
      return (.string text, rest)
  | fuel + 1, 0x7b :: rest => parseObject fuel (skipWs rest) []
  | fuel + 1, 0x5b :: rest => parseArray fuel (skipWs rest) []
  | _ + 1, input =>
      match input with
      | char :: _ =>
          if char = 0x2d ∨ isDigitByte char then parseNumber nearest input else .error (.argument "invalid JSON value")
      | [] => .error (.argument "invalid JSON value")

def parseObject : Nat → Bytes → JsonObject F → Except DecodeError (Json F × Bytes)
  | 0, _, _ => .error .unfinished
  | _ + 1, 0x7d :: rest, acc => .ok (.object acc, rest)
  | fuel + 1, 0x22 :: rest, acc => do
      let (key, rest) ← parseString (rest.length + 1) rest []
      match skipWs rest with
      | 0x3a :: rest =>
          let (value, rest) ← parseValue fuel (skipWs rest)
          let acc := OrderedMap.place key value acc
          match skipWs rest with
          | 0x2c :: rest => parseObject fuel (skipWs rest) acc
          | 0x7d :: rest => return (.object acc, rest)
          | _ => .error (.argument "expected comma or object terminator")
      | _ => .error (.argument "expected object key separator")
  | _ + 1, _, _ => .error (.argument "expected object key")

def parseArray : Nat → Bytes → List (Json F) → Except DecodeError (Json F × Bytes)
  | 0, _, _ => .error .unfinished
  | _ + 1, 0x5d :: rest, acc => .ok (.array acc.reverse, rest)
  | fuel + 1, input, acc => do
      let (value, rest) ← parseValue fuel input
      match skipWs rest with
      | 0x2c :: rest => parseArray fuel (skipWs rest) (value :: acc)
      | 0x5d :: rest => return (.array (value :: acc).reverse, rest)
      | _ => .error (.argument "expected comma or array terminator")

end

def decode (binary : Bytes) : Except DecodeError (Json F) := do
  let (value, rest) ← parseValue nearest (2 * binary.length + 1) (skipWs binary)
  match skipWs rest with
  | [] => return value
  | _ => .error (.argument "unexpected trailing JSON input")

/-! ### The texts it takes -/

/-- The value of a number, where it has one. -/
def numberValue (token : Bytes) : Option (Json F) := do
  let (negative, numeral) ← readNumber token
  if numeral.isInteger then some (.integer (numeral.integer negative))
  else (nearest (numeral.decimal negative)).map .float

def codepoint (first second third fourth : UInt8) : Option Int :=
  match integerParse [first, second, third, fourth] with
  | some (codepoint, []) => some codepoint
  | _ => none

/-- What `decode!` takes for JSON. -/
def dialect : Dialect where
  plain c later := c ≠ '"' ∧ (c = '\\' → ¬StartsEscape later)
  hex first second third fourth := ((codepoint first second third fourth).bind utf8Char).isSome
  number token := (numberValue nearest token).isSome ∧
    ∀ number ∈ readNumber token, number.2.isInteger ∨ number.2.fraction.isSome
  trailing := True
  not_plain_quote _ plain := plain.1 rfl
  not_plain_escape _ plain := plain.2 rfl
  number_bytes token number := by
    obtain ⟨value, read⟩ := Option.isSome_iff_exists.mp number.1
    obtain ⟨parts, read, -⟩ := Option.bind_eq_some_iff.mp read
    exact (readNumber_bytes read).1
  number_start token number := by
    obtain ⟨value, read⟩ := Option.isSome_iff_exists.mp number.1
    obtain ⟨parts, read, -⟩ := Option.bind_eq_some_iff.mp read
    exact (readNumber_bytes read).2

end Values

/-! ### Blanks and numbers -/

theorem skipWs_eq (input : Bytes) : skipWs input = skipBlanks input := by
  induction input with
  | nil => rfl
  | cons char rest ih =>
    have same : isBlankByte char = true ↔ char = 0x20 ∨ char = 0x0a ∨ char = 0x0d ∨ char = 0x09 := by
      simp only [isBlankByte, Bool.or_eq_true, decide_eq_true_eq]
      tauto
    unfold skipWs skipBlanks
    rw [List.dropWhile_cons, ih]
    simp only [same]
    rfl

theorem takeNumber_eq (input acc : Bytes) :
    takeNumber input acc = (acc.reverse ++ input.takeWhile isNumberByte, input.dropWhile isNumberByte) := by
  induction input generalizing acc with
  | nil => simp [takeNumber]
  | cons char rest ih =>
    unfold takeNumber
    by_cases number : isNumberByte char = true
    · rw [if_pos number, ih, List.takeWhile_cons_of_pos number, List.dropWhile_cons_of_pos number]
      simp
    · rw [if_neg number, List.takeWhile_cons_of_neg number, List.dropWhile_cons_of_neg number]
      simp

theorem not_float_of_digit {byte : UInt8} (digit : isDigitByte byte = true) : isFloatByte byte = false := by
  have all : ∀ byte : Fin 256, isDigitByte (UInt8.ofNat byte) → isFloatByte (UInt8.ofNat byte) = false := by
    decide +kernel
  simpa using all ⟨byte.toNat, byte.toNat_lt⟩ (by simpa using digit)

/-- A number without a fraction and an exponent is digits only; any other one shows it. -/
theorem readNumeral_kind {input : Bytes} {numeral : Numeral} (read : readNumeral input = some numeral) :
    (numeral.isInteger = true ∧ allDigits input = true) ∨
      (numeral.isInteger = false ∧ ∃ byte ∈ input, isFloatByte byte = true) := by
  unfold readNumeral at read
  simp only at read
  split_ifs at read with empty
  have parts : input.takeWhile isDigitByte ++ input.dropWhile isDigitByte = input := List.takeWhile_append_dropWhile
  split at read
  next rest point =>
    split_ifs at read with none
    obtain ⟨exponent, -, rfl⟩ := Option.map_eq_some_iff.mp read
    refine .inr ⟨rfl, 0x2e, ?_, by decide⟩
    rw [← parts, point]
    simp
  next later =>
    obtain ⟨exponent, last, rfl⟩ := Option.map_eq_some_iff.mp read
    cases ended : input.dropWhile isDigitByte with
    | nil =>
      rw [ended] at last
      cases last
      rw [ended, List.append_nil] at parts
      refine .inl ⟨rfl, ?_⟩
      simp only [allDigits, Bool.and_eq_true, List.all_eq_true, Bool.not_eq_true', List.isEmpty_eq_false_iff]
      exact ⟨parts ▸ empty, List.takeWhile_eq_self_iff.mp parts⟩
    | cons letter rest =>
      rw [ended] at last
      simp only [readExponent] at last
      split_ifs at last with shape
      cases last
      refine .inr ⟨rfl, letter, ?_, ?_⟩
      · rw [← parts, ended]
        simp
      · rcases shape.1 with rfl | rfl <;> decide

theorem readNumber_eq {token : Bytes} (start : ∃ first rest, token = first :: rest ∧ (isDigitByte first ∨ first = 0x2d)) :
    readNumber token = (readNumeral (splitSign token).2).map fun numeral => (decide ((splitSign token).1 = [0x2d]), numeral) := by
  obtain ⟨first, rest, rfl, digit | rfl⟩ := start
  · have minus : first ≠ 0x2d := by
      rintro rfl
      exact absurd digit (by decide)
    have plus : first ≠ 0x2b := by
      rintro rfl
      exact absurd digit (by decide)
    rw [readNumber.eq_2 _ (by rintro _ ⟨⟩; exact minus rfl), splitSign.eq_3 _ (by rintro _ ⟨⟩; exact plus rfl)
      (by rintro _ ⟨⟩; exact minus rfl)]
    rfl
  · rfl

/-- The bytes behind a sign hold a mark of a float where the whole token does. -/
theorem any_splitSign (token : Bytes) : token.any isFloatByte = (splitSign token).2.any isFloatByte := by
  unfold splitSign
  split <;> rfl

section Values

variable {F : Type} {nearest : Decimal → Option F}

theorem parseNumber_eq (nearest : Decimal → Option F) (input : Bytes) :
    parseNumber nearest input = match tokenValue nearest (input.takeWhile isNumberByte) with
      | some value => .ok (value, input.dropWhile isNumberByte)
      | none => .error .badArgument := by
  unfold parseNumber
  rw [takeNumber_eq]
  rfl

theorem tokenValue_eq {token : Bytes} (start : ∃ first rest, token = first :: rest ∧ (isDigitByte first ∨ first = 0x2d)) :
    tokenValue nearest token = (readNumber token).bind fun number =>
      if number.2.isInteger then some (.integer (number.2.integer number.1))
      else if number.2.fraction.isSome then (nearest (number.2.decimal number.1)).map .float else none := by
  rw [readNumber_eq start]
  unfold tokenValue toFloat toInteger
  rw [any_splitSign]
  generalize (splitSign token).1 = sign
  generalize (splitSign token).2 = unsigned
  cases read : readNumeral unsigned with
  | none =>
    have others : allDigits unsigned = false := by
      by_contra digits
      rw [readNumeral_digits (by simpa using digits)] at read
      cases read
    simp [others]
  | some numeral =>
    rcases readNumeral_kind read with ⟨integer, digits⟩ | ⟨float, byte, member, mark⟩
    · have plain : unsigned.any isFloatByte = false := by
        simp only [allDigits, Bool.and_eq_true, List.all_eq_true] at digits
        exact List.any_eq_false.mpr fun byte member => by simp [not_float_of_digit (digits.2 byte member)]
      rw [readNumeral_digits digits] at read
      cases read
      simp [plain, digits, integer, Numeral.integer]
    · have marked : unsigned.any isFloatByte = true := List.any_eq_true.mpr ⟨byte, member, mark⟩
      rw [if_pos marked]
      by_cases fraction : numeral.fraction.isSome = true <;> simp [float, fraction]

theorem tokenValue_of_number {token : Bytes} (number : (dialect nearest).number token) :
    tokenValue nearest token = numberValue nearest token ∧ (numberValue nearest token).isSome := by
  refine ⟨?_, number.1⟩
  rw [tokenValue_eq ((dialect nearest).number_start token number)]
  cases read : readNumber token with
  | none => simp [numberValue, read]
  | some parts =>
    have shape := number.2 parts read
    by_cases integer : parts.2.isInteger = true
    · simp [numberValue, read, integer]
    · simp [numberValue, read, integer, shape.resolve_left integer]

theorem number_of_tokenValue {token : Bytes} {value : Json F}
    (start : ∃ first rest, token = first :: rest ∧ (isDigitByte first ∨ first = 0x2d))
    (made : tokenValue nearest token = some value) : (dialect nearest).number token := by
  rw [tokenValue_eq start] at made
  obtain ⟨parts, read, made⟩ := Option.bind_eq_some_iff.mp made
  constructor
  · unfold numberValue
    rw [read]
    split_ifs at made with integer fraction
    · simp [integer]
    · simpa [integer] using Option.isSome_iff_exists.mpr ⟨value, made⟩
  · intro number member
    cases read.symm.trans member
    split_ifs at made with integer fraction
    · exact .inl integer
    · exact .inr fraction

end Values

end Json
end TelemetryFabric.ControlPlane
