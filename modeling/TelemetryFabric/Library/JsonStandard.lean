import TelemetryFabric.Library.JsonText
import TelemetryFabric.Library.Ascii
import Mathlib.Data.List.TakeWhile

/-!
Standard JSON: the numbers, escapes and characters of RFC 8259, what its strings and numbers stand
for, and texts written without blanks.
-/

namespace TelemetryFabric.Library.JsonText

/-! ### Numbers -/

structure Exponent where
  letter : UInt8
  sign : Bytes
  digits : Bytes

/-- The parts of a number as it is written, behind its sign. -/
structure Numeral where
  whole : Bytes
  fraction : Option Bytes
  exponent : Option Exponent

def allDigits (bytes : Bytes) : Bool := !bytes.isEmpty && bytes.all isDigitByte

def splitSign : Bytes → Bytes × Bytes
  | 0x2b :: rest => ([0x2b], rest)
  | 0x2d :: rest => ([0x2d], rest)
  | rest => ([], rest)

def readExponent : Bytes → Option (Option Exponent)
  | [] => some none
  | letter :: rest =>
      if (letter = 0x65 ∨ letter = 0x45) ∧ allDigits (splitSign rest).2 then
        some (some ⟨letter, (splitSign rest).1, (splitSign rest).2⟩)
      else none

/-- Digits, then a fraction and an exponent where there are any. -/
def readNumeral (input : Bytes) : Option Numeral :=
  let whole := input.takeWhile isDigitByte
  if whole = [] then none
  else match input.dropWhile isDigitByte with
    | 0x2e :: rest =>
        if rest.takeWhile isDigitByte = [] then none
        else (readExponent (rest.dropWhile isDigitByte)).map fun exponent =>
          ⟨whole, some (rest.takeWhile isDigitByte), exponent⟩
    | rest => (readExponent rest).map fun exponent => ⟨whole, none, exponent⟩

/-- Whether there is a minus, and the number behind it. -/
def readNumber : Bytes → Option (Bool × Numeral)
  | 0x2d :: rest => (readNumeral rest).map fun numeral => (true, numeral)
  | rest => (readNumeral rest).map fun numeral => (false, numeral)

def digitsValue (digits : Bytes) : Nat := digits.foldl (fun value digit => 10 * value + (digit.toNat - 0x30)) 0

/-- A number that is written with a fraction or an exponent: digits, times a power of ten. -/
structure Decimal where
  negative : Bool
  digits : Nat
  exponent : Int

def Exponent.value (exponent : Exponent) : Int :=
  if exponent.sign = [0x2d] then -(digitsValue exponent.digits : Int) else digitsValue exponent.digits

def Numeral.isInteger (numeral : Numeral) : Bool := numeral.fraction.isNone && numeral.exponent.isNone

def Numeral.integer (negative : Bool) (numeral : Numeral) : Int :=
  if negative then -(digitsValue numeral.whole : Int) else digitsValue numeral.whole

def Numeral.decimal (negative : Bool) (numeral : Numeral) : Decimal where
  negative := negative
  digits := digitsValue (numeral.whole ++ numeral.fraction.getD [])
  exponent := (numeral.exponent.map Exponent.value).getD 0 - (numeral.fraction.getD []).length

/-- Only zero itself begins with a zero. -/
def Numeral.isUnpadded (numeral : Numeral) : Bool := numeral.whole = [0x30] || numeral.whole.head? != some 0x30

theorem isNumberByte_of_isDigitByte {byte : UInt8} (digit : isDigitByte byte) : isNumberByte byte := by
  simp [isNumberByte, digit]

theorem takeWhile_digits (input : Bytes) : ∀ byte ∈ input.takeWhile isDigitByte, isNumberByte byte :=
  fun _ member => isNumberByte_of_isDigitByte (List.mem_takeWhile_imp member)

theorem splitSign_bytes (input : Bytes) :
    (splitSign input).1 ++ (splitSign input).2 = input ∧ ∀ byte ∈ (splitSign input).1, isNumberByte byte := by
  unfold splitSign
  split
  · exact ⟨rfl, List.forall_mem_singleton.mpr (by decide)⟩
  · exact ⟨rfl, List.forall_mem_singleton.mpr (by decide)⟩
  · exact ⟨rfl, by simp⟩

theorem readExponent_bytes {input : Bytes} {exponent : Option Exponent} (read : readExponent input = some exponent) :
    ∀ byte ∈ input, isNumberByte byte := by
  cases input with
  | nil => simp
  | cons letter rest =>
    simp only [readExponent] at read
    split_ifs at read with shape
    obtain ⟨exponential, digits⟩ := shape
    obtain ⟨whole, sign⟩ := splitSign_bytes rest
    intro byte member
    rcases List.mem_cons.mp member with rfl | later
    · rcases exponential with rfl | rfl <;> decide
    · rw [← whole] at later
      rcases List.mem_append.mp later with signed | digit
      · exact sign byte signed
      · simp only [allDigits, Bool.and_eq_true, List.all_eq_true] at digits
        exact isNumberByte_of_isDigitByte (digits.2 byte digit)

theorem readNumeral_bytes {input : Bytes} {numeral : Numeral} (read : readNumeral input = some numeral) :
    (∀ byte ∈ input, isNumberByte byte) ∧ ∃ first rest, input = first :: rest ∧ isDigitByte first := by
  unfold readNumeral at read
  simp only at read
  split_ifs at read with empty
  constructor
  · rw [← List.takeWhile_append_dropWhile (p := isDigitByte) (l := input)]
    refine List.forall_mem_append.mpr ⟨takeWhile_digits input, ?_⟩
    split at read
    next rest point =>
      split_ifs at read with none
      obtain ⟨exponent, later, -⟩ := Option.map_eq_some_iff.mp read
      rw [point, ← List.takeWhile_append_dropWhile (p := isDigitByte) (l := rest)]
      refine List.forall_mem_cons.mpr ⟨by decide, List.forall_mem_append.mpr ⟨takeWhile_digits rest, ?_⟩⟩
      exact readExponent_bytes later
    next =>
      obtain ⟨exponent, later, -⟩ := Option.map_eq_some_iff.mp read
      exact readExponent_bytes later
  · cases input with
    | nil => exact absurd rfl empty
    | cons first rest =>
      refine ⟨first, rest, rfl, ?_⟩
      by_contra other
      exact empty (List.takeWhile_cons_of_neg other)

theorem readNumber_bytes {token : Bytes} {number : Bool × Numeral} (read : readNumber token = some number) :
    (∀ byte ∈ token, isNumberByte byte) ∧
      ∃ first rest, token = first :: rest ∧ (isDigitByte first ∨ first = 0x2d) := by
  unfold readNumber at read
  split at read
  next rest =>
    obtain ⟨numeral, unsigned, -⟩ := Option.map_eq_some_iff.mp read
    exact ⟨List.forall_mem_cons.mpr ⟨by decide, (readNumeral_bytes unsigned).1⟩, _, rest, rfl, .inr rfl⟩
  next =>
    obtain ⟨numeral, unsigned, -⟩ := Option.map_eq_some_iff.mp read
    obtain ⟨bytes, first, rest, whole, digit⟩ := readNumeral_bytes unsigned
    exact ⟨bytes, first, rest, whole, .inl digit⟩

/-! ### Strings -/

/-- The number of four hexadecimal digits. -/
def codeUnit (first second third fourth : UInt8) : Option Nat := do
  let first ← hexValue first
  let second ← hexValue second
  let third ← hexValue third
  let fourth ← hexValue fourth
  return ((first.toNat * 16 + second.toNat) * 16 + third.toNat) * 16 + fourth.toNat

def isHighSurrogate (unit : Nat) : Bool := 0xd800 ≤ unit && unit < 0xdc00

def isLowSurrogate (unit : Nat) : Bool := 0xdc00 ≤ unit && unit < 0xe000

/-- The characters that pieces stand for: two escapes with surrogates are one character, and a
surrogate alone is none. -/
def characters : List Piece → Option (List Char)
  | [] => some []
  | .plain c :: rest => (characters rest).map (c :: ·)
  | .escape letter :: rest => (characters rest).map (letter.char :: ·)
  | .unicode a b c d :: .unicode e f g h :: rest => do
      let unit ← codeUnit a b c d
      if isHighSurrogate unit then
        let low ← codeUnit e f g h
        if isLowSurrogate low then
          (characters rest).map (Char.ofNat (0x10000 + (unit - 0xd800) * 0x400 + (low - 0xdc00)) :: ·)
        else none
      else if isLowSurrogate unit then none
      else (characters (.unicode e f g h :: rest)).map (Char.ofNat unit :: ·)
  | .unicode a b c d :: rest => do
      let unit ← codeUnit a b c d
      if isHighSurrogate unit || isLowSurrogate unit then none
      else (characters rest).map (Char.ofNat unit :: ·)

/-! ### The standard -/

/-- Strings hold every character but the quotation mark, the backslash and the controls. -/
def rfc : Dialect where
  plain c _ := 0x20 ≤ c.toNat ∧ c ≠ '"' ∧ c ≠ '\\'
  hex first second third fourth := (codeUnit first second third fourth).isSome
  number token := ∃ number, readNumber token = some number ∧ number.2.isUnpadded
  trailing := False
  not_plain_quote _ plain := plain.2.1 rfl
  not_plain_escape _ plain := absurd rfl plain.2.2
  number_bytes _ number := (readNumber_bytes number.choose_spec.1).1
  number_start _ number := (readNumber_bytes number.choose_spec.1).2

theorem rfc_uniform (c : Char) (later others : Bytes) (plain : rfc.plain c later) : rfc.plain c others := plain

/-! ### Integers -/

def integerToken (value : Int) : Bytes := utf8 (String.ofList (decimalInt value))

def digitByte (digit : Char) : UInt8 := UInt8.ofNat digit.toNat

theorem isDigitByte_digitByte {digit : Char} (isDigit : digit.isDigit = true) :
    isAscii digit = true ∧ isDigitByte (digitByte digit) = true ∧ (digitByte digit).toNat = digit.toNat := by
  have range : 48 ≤ digit.toNat ∧ digit.toNat ≤ 57 := Char.isDigit_iff_toNat.mp isDigit
  have code : (digitByte digit).toNat = digit.toNat := by
    show (UInt8.ofNat digit.toNat).toNat = digit.toNat
    rw [UInt8.toNat_ofNat']
    omega
  refine ⟨?_, ?_, code⟩
  · simp only [isAscii, decide_eq_true_eq]
    omega
  · simp only [isDigitByte, Bool.and_eq_true, decide_eq_true_eq, UInt8.le_iff_toNat_le, code]
    exact range

theorem utf8_decimal (value : Nat) : utf8 (String.ofList (decimal value)) = (decimal value).map digitByte :=
  utf8_of_ascii fun _ member => (isDigitByte_digitByte (decimal_isDigit member)).1

theorem digitsValue_decimal (value : Nat) : digitsValue ((decimal value).map digitByte) = value := by
  have fold : ∀ (digits : List Char) (start : Nat), (∀ digit ∈ digits, digit.isDigit = true) →
      (digits.map digitByte).foldl (fun value digit => 10 * value + (digit.toNat - 0x30)) start =
        Nat.ofDigitChars 10 digits start := by
    intro digits
    induction digits with
    | nil => exact fun start _ => rfl
    | cons digit rest ih =>
      intro start all
      obtain ⟨-, -, code⟩ := isDigitByte_digitByte (all digit List.mem_cons_self)
      rw [List.map_cons, List.foldl_cons, code, ih _ fun other member => all other (List.mem_cons_of_mem _ member),
        Nat.ofDigitChars_cons]
      rfl
  have whole := fold (decimal value) 0 fun _ member => decimal_isDigit member
  exact whole.trans Nat.ofDigitChars_ten_toDigits

theorem allDigits_decimalBytes (value : Nat) : allDigits ((decimal value).map digitByte) = true := by
  simp only [allDigits, Bool.and_eq_true, List.all_eq_true, Bool.not_eq_true', List.isEmpty_eq_false_iff, List.mem_map]
  refine ⟨by simp [decimal_ne_nil], ?_⟩
  rintro byte ⟨digit, member, rfl⟩
  exact (isDigitByte_digitByte (decimal_isDigit member)).2.1

/-- Numerals do not begin with a zero but zero itself. -/
theorem decimal_head {value : Nat} (positive : 0 < value) : (decimal value).head? ≠ some '0' := by
  induction value using Nat.strong_induction_on with
  | _ value ih =>
    by_cases small : value < 10
    · rw [decimal, Nat.toDigits_of_lt_base small]
      have all : ∀ value < 10, 0 < value → [Nat.digitChar value].head? ≠ some '0' := by decide
      exact all value small positive
    · have earlier := ih (value / 10) (by omega) (by omega)
      rw [decimal, Nat.toDigits_of_base_le (by decide) (by omega)]
      rw [List.head?_append_of_ne_nil _ Nat.toDigits_ne_nil]
      exact earlier

theorem isUnpadded_decimal (value : Nat) : Numeral.isUnpadded ⟨(decimal value).map digitByte, none, none⟩ = true := by
  rcases Nat.eq_zero_or_pos value with rfl | positive
  · decide
  · have head := decimal_head positive
    simp only [Numeral.isUnpadded, Bool.or_eq_true, bne_iff_ne]
    refine .inr fun zero => head ?_
    rw [List.head?_map] at zero
    obtain ⟨digit, first, same⟩ := Option.map_eq_some_iff.mp zero
    have isDigit : digit.isDigit = true := decimal_isDigit (List.mem_of_mem_head? first)
    have code := (isDigitByte_digitByte isDigit).2.2
    rw [same] at code
    rw [first, show digit = '0' from Char.toNat_inj.mp code.symm]

theorem readNumeral_digits {input : Bytes} (digits : allDigits input = true) :
    readNumeral input = some ⟨input, none, none⟩ := by
  simp only [allDigits, Bool.and_eq_true, List.all_eq_true, Bool.not_eq_true', List.isEmpty_eq_false_iff] at digits
  have whole : input.takeWhile isDigitByte = input := List.takeWhile_eq_self_iff.mpr digits.2
  have ended : input.dropWhile isDigitByte = [] := List.dropWhile_eq_nil_iff.mpr digits.2
  unfold readNumeral
  simp [whole, ended, digits.1, readExponent]

/-- An integer is a number of the standard, and of that value. -/
theorem readNumber_integerToken (value : Int) :
    ∃ number, readNumber (integerToken value) = some number ∧ number.2.isInteger = true ∧
      number.2.integer number.1 = value ∧ number.2.isUnpadded = true := by
  have reads (magnitude : Nat) := readNumeral_digits (allDigits_decimalBytes magnitude)
  unfold integerToken
  cases value with
  | ofNat magnitude =>
    refine ⟨(false, ⟨(decimal magnitude).map digitByte, none, none⟩), ?_, rfl, ?_, isUnpadded_decimal magnitude⟩
    · rw [decimalInt, utf8_decimal, readNumber.eq_2, reads]
      · rfl
      · intro rest minus
        have digits := allDigits_decimalBytes magnitude
        rw [minus, allDigits, List.all_cons, show isDigitByte 0x2d = false from by decide] at digits
        simp at digits
    · simp [Numeral.integer, digitsValue_decimal]
  | negSucc magnitude =>
    refine ⟨(true, ⟨(decimal (magnitude + 1)).map digitByte, none, none⟩), ?_, rfl, ?_, isUnpadded_decimal (magnitude + 1)⟩
    · rw [decimalInt, utf8_ofList_cons, utf8_decimal]
      show (readNumeral ((decimal (magnitude + 1)).map digitByte)).map _ = _
      rw [reads]
      rfl
    · simp only [Numeral.integer, if_true, digitsValue_decimal]
      rfl

/-! ### Texts without blanks -/

def Document.literal : Bool → Bytes
  | true => [0x74, 0x72, 0x75, 0x65]
  | false => [0x66, 0x61, 0x6c, 0x73, 0x65]

def quoted (pieces : List Piece) : Bytes := quotationMark :: (pieces.flatMap Piece.bytes ++ [quotationMark])

mutual

def Document.written : Document → Bytes
  | .null => [0x6e, 0x75, 0x6c, 0x6c]
  | .boolean value => Document.literal value
  | .number token => token
  | .string pieces => quoted pieces
  | .array items => beginArray :: ([comma].intercalate (writtenItems items) ++ [endArray])
  | .object members => beginObject :: ([comma].intercalate (writtenMembers members) ++ [endObject])

def writtenItems : List Document → List Bytes
  | [] => []
  | item :: rest => item.written :: writtenItems rest

def writtenMembers : List (List Piece × Document) → List Bytes
  | [] => []
  | (name, item) :: rest => (quoted name ++ colon :: item.written) :: writtenMembers rest

end

section Written

variable (dialect : Dialect)

/-- The dialect has these pieces wherever they stand. -/
def FitsPieces (pieces : List Piece) : Prop := ∀ piece ∈ pieces, ∀ later, dialect.Accepts piece later

mutual

def Document.Fits : Document → Prop
  | .null => True
  | .boolean _ => True
  | .number token => dialect.number token
  | .string pieces => FitsPieces dialect pieces
  | .array items => FitsItems items
  | .object members => FitsMembers members

def FitsItems : List Document → Prop
  | [] => True
  | item :: rest => item.Fits ∧ FitsItems rest

def FitsMembers : List (List Piece × Document) → Prop
  | [] => True
  | (name, item) :: rest => FitsPieces dialect name ∧ item.Fits ∧ FitsMembers rest

end

variable {dialect}

theorem quoted_append {pieces : List Piece} (fits : FitsPieces dialect pieces) (rest : Bytes) :
    Quoted dialect (pieces.flatMap Piece.bytes ++ quotationMark :: rest) pieces rest := by
  induction pieces with
  | nil => exact .close
  | cons piece pieces ih =>
    rw [List.flatMap_cons, List.append_assoc]
    have others := ih fun other member => fits other (List.mem_cons_of_mem _ member)
    exact .piece (fits piece List.mem_cons_self _) others

theorem not_blank_of_kind {byte : UInt8} {kind : Kind} (known : kindOf byte = some kind) : isBlankByte byte = false := by
  have all : ∀ byte : Fin 256, (kindOf (UInt8.ofNat byte)).isSome → isBlankByte (UInt8.ofNat byte) = false := by
    decide +kernel
  simpa using all ⟨byte.toNat, byte.toNat_lt⟩ (by simp [known])

theorem skipBlanks_cons {byte : UInt8} (solid : isBlankByte byte = false) (rest : Bytes) :
    skipBlanks (byte :: rest) = byte :: rest :=
  List.dropWhile_cons_of_neg (by simp [solid])

theorem Derives.skipBlanks_eq {input rest : Bytes} {document : Document}
    (derives : Derives dialect input (.value document) rest) : skipBlanks input = input := by
  obtain ⟨byte, later, rfl, kind⟩ := derives.kind
  exact skipBlanks_cons (not_blank_of_kind kind) later

theorem Derives.skipBlanks_items {input rest : Bytes} {start : Bool} {items : List Document}
    (derives : Derives dialect input (.items start items) rest) : skipBlanks input = input := by
  cases derives with
  | noItem => exact skipBlanks_cons (by decide) _
  | lastItem value => exact value.skipBlanks_eq
  | nextItem value => exact value.skipBlanks_eq

theorem Derives.skipBlanks_members {input rest : Bytes} {start : Bool} {members : List (List Piece × Document)}
    (derives : Derives dialect input (.members start members) rest) : skipBlanks input = input := by
  cases derives with
  | noMember => exact skipBlanks_cons (by decide) _
  | lastMember => exact skipBlanks_cons (by decide) _
  | nextMember => exact skipBlanks_cons (by decide) _

theorem numberEnds_cons (byte : UInt8) (rest : Bytes) (other : isNumberByte byte = false) : NumberEnds (byte :: rest) := by
  intro first member
  cases member
  exact other

mutual

/-- What is written is read as it was meant. -/
theorem Document.derives_written (document : Document) (fits : document.Fits dialect) (rest : Bytes)
    (ends : NumberEnds rest) : Derives dialect (document.written ++ rest) (.value document) rest := by
  match document with
  | .null => exact .null
  | .boolean true => exact .yes
  | .boolean false => exact .no
  | .number token => exact .number fits ends
  | .string pieces =>
    have inner := quoted_append (show FitsPieces dialect pieces from fits) rest
    simpa [Document.written, quoted] using Derives.string inner
  | .array items =>
    have inner := derives_writtenItems items fits true rest (.inr rfl)
    rw [← inner.skipBlanks_items] at inner
    simpa [Document.written] using Derives.array inner
  | .object members =>
    have inner := derives_writtenMembers members fits true rest (.inr rfl)
    rw [← inner.skipBlanks_members] at inner
    simpa [Document.written] using Derives.object inner

theorem derives_writtenItems (items : List Document) (fits : FitsItems dialect items) (start : Bool) (rest : Bytes)
    (allowed : items ≠ [] ∨ start = true) :
    Derives dialect ([comma].intercalate (writtenItems items) ++ endArray :: rest) (.items start items) rest := by
  match items with
  | [] => exact .noItem (.inl (allowed.resolve_left (not_not.mpr rfl)))
  | [item] =>
    have value := item.derives_written fits.1 _ (numberEnds_cons endArray rest (by decide))
    simpa [writtenItems] using Derives.lastItem value rfl
  | item :: next :: others =>
    have following := derives_writtenItems (next :: others) fits.2 false rest (.inl (List.cons_ne_nil _ _))
    have value := item.derives_written fits.1 _ (numberEnds_cons comma
      ([comma].intercalate (writtenItems (next :: others)) ++ endArray :: rest) (by decide))
    rw [← following.skipBlanks_items] at following
    simpa [writtenItems, List.intercalate] using Derives.nextItem value rfl following

theorem derives_writtenMembers (members : List (List Piece × Document)) (fits : FitsMembers dialect members)
    (start : Bool) (rest : Bytes) (allowed : members ≠ [] ∨ start = true) :
    Derives dialect ([comma].intercalate (writtenMembers members) ++ endObject :: rest) (.members start members) rest := by
  match members with
  | [] => exact .noMember (.inl (allowed.resolve_left (not_not.mpr rfl)))
  | [(name, item)] =>
    have value := item.derives_written fits.2.1 _ (numberEnds_cons endObject rest (by decide))
    have key := quoted_append fits.1 (colon :: (item.written ++ endObject :: rest))
    rw [← value.skipBlanks_eq] at value
    simpa [writtenMembers, quoted] using Derives.lastMember key rfl value rfl
  | (name, item) :: next :: others =>
    have following := derives_writtenMembers (next :: others) fits.2.2 false rest (.inl (List.cons_ne_nil _ _))
    have value := item.derives_written fits.2.1 _ (numberEnds_cons comma
      ([comma].intercalate (writtenMembers (next :: others)) ++ endObject :: rest) (by decide))
    have key := quoted_append fits.1 (colon :: (item.written ++ comma ::
      ([comma].intercalate (writtenMembers (next :: others)) ++ endObject :: rest)))
    rw [← value.skipBlanks_eq] at value
    rw [← following.skipBlanks_members] at following
    simpa [writtenMembers, quoted, List.intercalate] using Derives.nextMember key rfl value rfl following

end

theorem isText_written {document : Document} (fits : document.Fits dialect) : IsText dialect document.written document := by
  have derives := document.derives_written fits [] (fun _ member => by cases member)
  rw [List.append_nil] at derives
  exact ⟨[], derives.skipBlanks_eq.symm ▸ derives, rfl⟩

def Part.Fits (dialect : Dialect) : Part → Prop
  | .value document => document.Fits dialect
  | .items _ documents => FitsItems dialect documents
  | .members _ entries => FitsMembers dialect entries

/-- The characters of strings do not depend on what follows them. -/
def Dialect.Uniform (dialect : Dialect) : Prop := ∀ c later others, dialect.plain c later → dialect.plain c others

theorem Quoted.fits (uniform : dialect.Uniform) {input rest : Bytes} {pieces : List Piece}
    (quoted : Quoted dialect input pieces rest) : FitsPieces dialect pieces := by
  induction quoted with
  | close => exact fun _ member => absurd member List.not_mem_nil
  | @piece piece later rest pieces accepts others ih =>
    refine List.forall_mem_cons.mpr ⟨fun other => ?_, ih⟩
    cases piece with
    | plain c => exact uniform c later other accepts
    | escape => exact accepts
    | unicode => exact accepts

theorem Derives.fits (uniform : dialect.Uniform) {input rest : Bytes} {part : Part}
    (derives : Derives dialect input part rest) : part.Fits dialect := by
  induction derives with
  | null => trivial
  | yes => trivial
  | no => trivial
  | number number => exact number
  | string quoted => exact quoted.fits uniform
  | array _ ih => exact ih
  | object _ ih => exact ih
  | noItem => trivial
  | lastItem _ _ ih => exact ⟨ih, trivial⟩
  | nextItem _ _ _ ih ihRest => exact ⟨ih, ihRest⟩
  | noMember => trivial
  | lastMember key _ _ _ ih => exact ⟨key.fits uniform, ih, trivial⟩
  | nextMember key _ _ _ _ ih ihRest => exact ⟨key.fits uniform, ih, ihRest⟩

/-- What one dialect writes is a text of another one if it fits it, and otherwise of no document. -/
theorem isText_written_iff {other : Dialect} (uniform : dialect.Uniform) {document second : Document}
    (fits : document.Fits other) :
    IsText dialect document.written second ↔ second = document ∧ document.Fits dialect := by
  constructor
  · intro text
    obtain ⟨rfl, -⟩ := text.meet (isText_written fits)
    obtain ⟨rest, derives, -⟩ := text
    exact ⟨rfl, derives.fits uniform⟩
  · rintro ⟨rfl, stays⟩
    exact isText_written stays

end Written

end TelemetryFabric.Library.JsonText
