import TelemetryFabric.Library.LittleEndian
import TelemetryFabric.Library.Utf8
import Mathlib.Data.List.Basic
import Mathlib.Order.Basic

/-!
The syntax of JSON texts over bytes. A dialect says which characters may stand in a string, which
escapes and numbers there are and whether a separator may come last; two dialects agree on every
text that both of them have.
-/

namespace TelemetryFabric.Library

/-! ### Characters -/

/-- The first character of a byte string and the bytes behind it. -/
def readChar? (bytes : List UInt8) : Option (Char × List UInt8) :=
  (bytes.toByteArray.utf8DecodeChar? 0).map fun c => (c, bytes.drop c.utf8Size)

theorem readChar?_append (c : Char) (rest : List UInt8) :
    readChar? (String.utf8EncodeChar c ++ rest) = some (c, rest) := by
  unfold readChar?
  rw [List.toByteArray_append, ByteArray.utf8DecodeChar?_utf8EncodeChar_append, Option.map_some,
    List.drop_left' (String.length_utf8EncodeChar c)]

theorem readChar?_eq_some_iff {bytes rest : List UInt8} {c : Char} :
    readChar? bytes = some (c, rest) ↔ bytes = String.utf8EncodeChar c ++ rest := by
  constructor
  · intro read
    unfold readChar? at read
    obtain ⟨found, decoded, same⟩ := Option.map_eq_some_iff.mp read
    cases same
    obtain ⟨later, split⟩ := ByteArray.exists_of_utf8DecodeChar?_eq_some decoded
    have listed : bytes = String.utf8EncodeChar c ++ later.data.toList := by
      have whole := congrArg (fun array => array.data.toList) split
      simpa using whole
    rw [listed, List.drop_left' (String.length_utf8EncodeChar c)]
  · intro split
    rw [split, readChar?_append]

theorem utf8EncodeChar_append_inj {first second : Char} {rest others : List UInt8}
    (same : String.utf8EncodeChar first ++ rest = String.utf8EncodeChar second ++ others) :
    first = second ∧ rest = others := by
  have read := readChar?_append first rest
  rw [same, readChar?_append] at read
  simpa using (Option.some.inj read).symm

namespace JsonText

@[match_pattern] abbrev quotationMark : UInt8 := 0x22
@[match_pattern] abbrev backslash : UInt8 := 0x5c
@[match_pattern] abbrev comma : UInt8 := 0x2c
@[match_pattern] abbrev colon : UInt8 := 0x3a
@[match_pattern] abbrev beginArray : UInt8 := 0x5b
@[match_pattern] abbrev endArray : UInt8 := 0x5d
@[match_pattern] abbrev beginObject : UInt8 := 0x7b
@[match_pattern] abbrev endObject : UInt8 := 0x7d
@[match_pattern] abbrev letterU : UInt8 := 0x75

/-- The insignificant bytes: space, tab, line feed and carriage return. -/
def isBlankByte (byte : UInt8) : Bool := byte = 0x20 || byte = 0x09 || byte = 0x0a || byte = 0x0d

def skipBlanks (input : Bytes) : Bytes := input.dropWhile isBlankByte

def isDigitByte (byte : UInt8) : Bool := 0x30 ≤ byte && byte ≤ 0x39

/-- The bytes that numbers are written with: digits, signs, the point and the letter of an
exponent. -/
def isNumberByte (byte : UInt8) : Bool :=
  isDigitByte byte || byte = 0x2d || byte = 0x2b || byte = 0x2e || byte = 0x65 || byte = 0x45

/-! ### Documents -/

/-- A character after a backslash that stands for one character. -/
inductive Escape where
  | quotationMark | backslash | slash | backspace | formFeed | lineFeed | carriageReturn | tab
  deriving DecidableEq

def Escape.letter : Escape → UInt8
  | .quotationMark => 0x22
  | .backslash => 0x5c
  | .slash => 0x2f
  | .backspace => 0x62
  | .formFeed => 0x66
  | .lineFeed => 0x6e
  | .carriageReturn => 0x72
  | .tab => 0x74

def Escape.char : Escape → Char
  | .quotationMark => '"'
  | .backslash => '\\'
  | .slash => '/'
  | .backspace => '\x08'
  | .formFeed => '\x0c'
  | .lineFeed => '\n'
  | .carriageReturn => '\r'
  | .tab => '\t'

inductive Piece where
  | plain (c : Char)
  | escape (letter : Escape)
  | unicode (first second third fourth : UInt8)
  deriving DecidableEq

def Piece.bytes : Piece → Bytes
  | .plain c => String.utf8EncodeChar c
  | .escape letter => [backslash, letter.letter]
  | .unicode first second third fourth => [backslash, letterU, first, second, third, fourth]

/-- What a text says and how it writes it, the blanks aside. -/
inductive Document where
  | null
  | boolean (value : Bool)
  | number (token : Bytes)
  | string (pieces : List Piece)
  | array (items : List Document)
  | object (members : List (List Piece × Document))

/-- Whether an escape starts before these bytes if a backslash does. -/
def StartsEscape (later : Bytes) : Prop :=
  (∃ letter : Escape, ∃ rest, later = letter.letter :: rest) ∨
    ∃ first second third fourth rest, later = letterU :: first :: second :: third :: fourth :: rest

/-- What the versions of the format differ in. A character may stand in a string by the bytes that
follow it; a backslash that starts an escape never stands for itself. -/
structure Dialect where
  plain : Char → Bytes → Prop
  hex : UInt8 → UInt8 → UInt8 → UInt8 → Prop
  number : Bytes → Prop
  trailing : Prop
  not_plain_quote : ∀ later, ¬plain '"' later
  not_plain_escape : ∀ later, plain '\\' later → ¬StartsEscape later
  number_bytes : ∀ token, number token → ∀ byte ∈ token, isNumberByte byte
  number_start : ∀ token, number token → ∃ first rest, token = first :: rest ∧ (isDigitByte first ∨ first = 0x2d)

/-- What two dialects have in common. -/
def Dialect.meet (first second : Dialect) : Dialect where
  plain c later := first.plain c later ∧ second.plain c later
  hex high upper lower low := first.hex high upper lower low ∧ second.hex high upper lower low
  number token := first.number token ∧ second.number token
  trailing := first.trailing ∧ second.trailing
  not_plain_quote later both := first.not_plain_quote later both.1
  not_plain_escape later both := first.not_plain_escape later both.1
  number_bytes token both := first.number_bytes token both.1
  number_start token both := first.number_start token both.1

/-! ### Texts -/

section Grammar

variable (dialect : Dialect)

def Dialect.Accepts : Piece → Bytes → Prop
  | .plain c, later => dialect.plain c later
  | .escape _, _ => True
  | .unicode first second third fourth, _ => dialect.hex first second third fourth

/-- The bytes after an opening quotation mark begin with the pieces and a closing one. -/
inductive Quoted : Bytes → List Piece → Bytes → Prop
  | close {rest : Bytes} : Quoted (quotationMark :: rest) [] rest
  | piece {piece : Piece} {later rest : Bytes} {pieces : List Piece} (accepts : dialect.Accepts piece later)
      (others : Quoted later pieces rest) : Quoted (piece.bytes ++ later) (piece :: pieces) rest

/-- A number is as long as it can be. -/
def NumberEnds (rest : Bytes) : Prop := ∀ byte ∈ rest.head?, isNumberByte byte = false

/-- The parts of a text: a value, and what is left of an array or of an object, where a closing
bracket may follow at once at the start only, unless separators may come last. -/
inductive Part where
  | value (document : Document)
  | items (start : Bool) (documents : List Document)
  | members (start : Bool) (members : List (List Piece × Document))

/-- The bytes begin with the part and go on with the rest. -/
inductive Derives : Bytes → Part → Bytes → Prop
  | null {rest : Bytes} : Derives (0x6e :: 0x75 :: 0x6c :: 0x6c :: rest) (.value .null) rest
  | yes {rest : Bytes} : Derives (0x74 :: 0x72 :: 0x75 :: 0x65 :: rest) (.value (.boolean true)) rest
  | no {rest : Bytes} : Derives (0x66 :: 0x61 :: 0x6c :: 0x73 :: 0x65 :: rest) (.value (.boolean false)) rest
  | number {token rest : Bytes} (number : dialect.number token) (ends : NumberEnds rest) :
      Derives (token ++ rest) (.value (.number token)) rest
  | string {input rest : Bytes} {pieces : List Piece} (quoted : Quoted dialect input pieces rest) :
      Derives (quotationMark :: input) (.value (.string pieces)) rest
  | array {input rest : Bytes} {items : List Document} (inner : Derives (skipBlanks input) (.items true items) rest) :
      Derives (beginArray :: input) (.value (.array items)) rest
  | object {input rest : Bytes} {members : List (List Piece × Document)}
      (inner : Derives (skipBlanks input) (.members true members) rest) :
      Derives (beginObject :: input) (.value (.object members)) rest
  | noItem {start : Bool} {rest : Bytes} (allowed : start = true ∨ dialect.trailing) :
      Derives (endArray :: rest) (.items start []) rest
  | lastItem {start : Bool} {input middle rest : Bytes} {item : Document} (value : Derives input (.value item) middle)
      (closes : skipBlanks middle = endArray :: rest) : Derives input (.items start [item]) rest
  | nextItem {start : Bool} {input middle later rest : Bytes} {item : Document} {items : List Document}
      (value : Derives input (.value item) middle) (separates : skipBlanks middle = comma :: later)
      (others : Derives (skipBlanks later) (.items false items) rest) : Derives input (.items start (item :: items)) rest
  | noMember {start : Bool} {rest : Bytes} (allowed : start = true ∨ dialect.trailing) :
      Derives (endObject :: rest) (.members start []) rest
  | lastMember {start : Bool} {input named valued middle rest : Bytes} {name : List Piece} {item : Document}
      (key : Quoted dialect input name named) (separates : skipBlanks named = colon :: valued)
      (value : Derives (skipBlanks valued) (.value item) middle) (closes : skipBlanks middle = endObject :: rest) :
      Derives (quotationMark :: input) (.members start [(name, item)]) rest
  | nextMember {start : Bool} {input named valued middle later rest : Bytes} {name : List Piece} {item : Document}
      {members : List (List Piece × Document)} (key : Quoted dialect input name named)
      (separates : skipBlanks named = colon :: valued) (value : Derives (skipBlanks valued) (.value item) middle)
      (continues : skipBlanks middle = comma :: later)
      (others : Derives (skipBlanks later) (.members false members) rest) :
      Derives (quotationMark :: input) (.members start ((name, item) :: members)) rest

/-- The whole input is one value, with blanks around it. -/
def IsText (input : Bytes) (document : Document) : Prop :=
  ∃ rest, Derives dialect (skipBlanks input) (.value document) rest ∧ skipBlanks rest = []

end Grammar

/-! ### Lengths -/

section Lengths

variable {dialect : Dialect}

theorem Piece.length_pos (piece : Piece) : 0 < piece.bytes.length := by
  cases piece with
  | plain c => exact List.length_pos_of_ne_nil String.utf8EncodeChar_ne_nil
  | escape => exact Nat.succ_pos _
  | unicode => exact Nat.succ_pos _

theorem Piece.length_append (piece : Piece) (later : Bytes) : later.length < (piece.bytes ++ later).length := by
  have := piece.length_pos
  rw [List.length_append]
  omega

theorem length_skipBlanks_le (input : Bytes) : (skipBlanks input).length ≤ input.length :=
  (List.dropWhile_suffix isBlankByte).length_le

theorem length_of_skipBlanks {input rest : Bytes} {byte : UInt8} (skipped : skipBlanks input = byte :: rest) :
    rest.length < input.length := by
  have bound := length_skipBlanks_le input
  rw [skipped, List.length_cons] at bound
  omega

theorem Quoted.length_lt {input rest : Bytes} {pieces : List Piece} (quoted : Quoted dialect input pieces rest) :
    rest.length < input.length := by
  induction quoted with
  | close => simp
  | @piece piece later rest pieces accepts others ih =>
    have := piece.length_append later
    omega

theorem Derives.length_lt {input rest : Bytes} {part : Part} (derives : Derives dialect input part rest) :
    rest.length < input.length := by
  induction derives with
  | null => simp only [List.length_cons]; omega
  | yes => simp only [List.length_cons]; omega
  | no => simp only [List.length_cons]; omega
  | @number token rest number ends =>
    obtain ⟨first, later, rfl, -⟩ := dialect.number_start token number
    simp only [List.cons_append, List.length_cons, List.length_append]
    omega
  | string quoted =>
    have := quoted.length_lt
    rw [List.length_cons]
    omega
  | @array input _ _ _ ih =>
    have := length_skipBlanks_le input
    rw [List.length_cons]
    omega
  | @object input _ _ _ ih =>
    have := length_skipBlanks_le input
    rw [List.length_cons]
    omega
  | noItem => simp
  | lastItem _ closes ih =>
    have := length_of_skipBlanks closes
    omega
  | @nextItem _ _ _ later _ _ _ _ separates _ ih ihRest =>
    have := length_of_skipBlanks separates
    have := length_skipBlanks_le later
    omega
  | noMember => simp
  | @lastMember _ _ _ valued _ _ _ _ key separates _ closes ih =>
    have := key.length_lt
    have := length_of_skipBlanks separates
    have := length_skipBlanks_le valued
    have := length_of_skipBlanks closes
    rw [List.length_cons]
    omega
  | @nextMember _ _ _ valued _ later _ _ _ _ key separates _ continues _ ih ihRest =>
    have := key.length_lt
    have := length_of_skipBlanks separates
    have := length_skipBlanks_le valued
    have := length_of_skipBlanks continues
    have := length_skipBlanks_le later
    rw [List.length_cons]
    omega

end Lengths

/-! ### Larger dialects -/

section Within

/-- All that the first dialect has the second one has. -/
structure Dialect.Within (first second : Dialect) : Prop where
  plain : ∀ c later, first.plain c later → second.plain c later
  hex : ∀ a b c d, first.hex a b c d → second.hex a b c d
  number : ∀ token, first.number token → second.number token
  trailing : first.trailing → second.trailing

theorem Dialect.meet_within_left (first second : Dialect) : (first.meet second).Within first where
  plain _ _ both := both.1
  hex _ _ _ _ both := both.1
  number _ both := both.1
  trailing both := both.1

theorem Dialect.meet_within_right (first second : Dialect) : (first.meet second).Within second where
  plain _ _ both := both.2
  hex _ _ _ _ both := both.2
  number _ both := both.2
  trailing both := both.2

variable {dialect other : Dialect}

theorem Quoted.within (larger : dialect.Within other) {input rest : Bytes} {pieces : List Piece}
    (quoted : Quoted dialect input pieces rest) : Quoted other input pieces rest := by
  induction quoted with
  | close => exact .close
  | @piece piece later rest pieces accepts others ih =>
    cases piece with
    | plain c => exact .piece (larger.plain c later accepts) ih
    | escape => exact .piece trivial ih
    | unicode a b c d => exact .piece (larger.hex a b c d accepts) ih

theorem Derives.within (larger : dialect.Within other) {input rest : Bytes} {part : Part}
    (derives : Derives dialect input part rest) : Derives other input part rest := by
  induction derives with
  | null => exact .null
  | yes => exact .yes
  | no => exact .no
  | number number ends => exact .number (larger.number _ number) ends
  | string quoted => exact .string (quoted.within larger)
  | array _ ih => exact .array ih
  | object _ ih => exact .object ih
  | noItem allowed => exact .noItem (allowed.imp_right larger.trailing)
  | lastItem _ closes ih => exact .lastItem ih closes
  | nextItem _ separates _ ih ihRest => exact .nextItem ih separates ihRest
  | noMember allowed => exact .noMember (allowed.imp_right larger.trailing)
  | lastMember key separates _ closes ih => exact .lastMember (key.within larger) separates ih closes
  | nextMember key separates _ continues _ ih ihRest => exact .nextMember (key.within larger) separates ih continues ihRest

theorem IsText.within (larger : dialect.Within other) {input : Bytes} {document : Document}
    (text : IsText dialect input document) : IsText other input document := by
  obtain ⟨rest, derives, ended⟩ := text
  exact ⟨rest, derives.within larger, ended⟩

end Within

/-! ### One reading -/

section Meet

variable {dialect other : Dialect}

theorem Escape.letter_injective {first second : Escape} (same : first.letter = second.letter) : first = second := by
  revert same
  cases first <;> cases second <;> decide

theorem Escape.letter_ne_letterU (letter : Escape) : letter.letter ≠ letterU := by
  cases letter <;> decide

theorem plain_backslash {c : Char} {later rest : Bytes} (same : String.utf8EncodeChar c ++ later = backslash :: rest) :
    c = '\\' ∧ later = rest :=
  utf8EncodeChar_append_inj (show String.utf8EncodeChar c ++ later = String.utf8EncodeChar '\\' ++ rest from same)

/-- A piece does not begin with the closing quotation mark. -/
theorem Dialect.Accepts.bytes_ne {piece : Piece} {later rest : Bytes} (accepts : dialect.Accepts piece later) :
    piece.bytes ++ later ≠ quotationMark :: rest := by
  intro same
  cases piece with
  | plain c =>
    obtain ⟨rfl, -⟩ := utf8EncodeChar_append_inj
      (show String.utf8EncodeChar c ++ later = String.utf8EncodeChar '"' ++ rest from same)
    exact dialect.not_plain_quote later accepts
  | escape letter => exact absurd (List.head_eq_of_cons_eq same) (by decide)
  | unicode => exact absurd (List.head_eq_of_cons_eq same) (by decide)

theorem Dialect.Accepts.meet {piece second : Piece} {later rest : Bytes} (accepts : dialect.Accepts piece later)
    (also : other.Accepts second rest) (same : piece.bytes ++ later = second.bytes ++ rest) :
    piece = second ∧ later = rest ∧ (dialect.meet other).Accepts piece later := by
  cases piece with
  | plain c =>
    cases second with
    | plain d =>
      obtain ⟨rfl, rfl⟩ := utf8EncodeChar_append_inj same
      exact ⟨rfl, rfl, accepts, also⟩
    | escape letter =>
      obtain ⟨rfl, rfl⟩ := plain_backslash same
      exact absurd (.inl ⟨letter, rest, rfl⟩) (dialect.not_plain_escape _ accepts)
    | unicode a b c d =>
      obtain ⟨rfl, rfl⟩ := plain_backslash same
      exact absurd (.inr ⟨a, b, c, d, rest, rfl⟩) (dialect.not_plain_escape _ accepts)
  | escape letter =>
    cases second with
    | plain d =>
      obtain ⟨rfl, rfl⟩ := plain_backslash same.symm
      exact absurd (.inl ⟨letter, later, rfl⟩) (other.not_plain_escape _ also)
    | escape second =>
      obtain ⟨letters, rest⟩ := List.cons.inj (List.cons.inj same).2
      exact ⟨congrArg Piece.escape (Escape.letter_injective letters), rest, trivial⟩
    | unicode a b c d => exact absurd (List.cons.inj (List.cons.inj same).2).1 letter.letter_ne_letterU
  | unicode a b c d =>
    cases second with
    | plain e =>
      obtain ⟨rfl, rfl⟩ := plain_backslash same.symm
      exact absurd (.inr ⟨a, b, c, d, later, rfl⟩) (other.not_plain_escape _ also)
    | escape second => exact absurd (List.cons.inj (List.cons.inj same).2).1.symm second.letter_ne_letterU
    | unicode e f g h =>
      have equal : a = e ∧ b = f ∧ c = g ∧ d = h ∧ later = rest := by simpa [Piece.bytes] using same
      obtain ⟨rfl, rfl, rfl, rfl, rfl⟩ := equal
      exact ⟨rfl, rfl, accepts, also⟩

theorem Quoted.meet {input rest others : Bytes} {pieces more : List Piece} (quoted : Quoted dialect input pieces rest)
    (also : Quoted other input more others) :
    pieces = more ∧ rest = others ∧ Quoted (dialect.meet other) input pieces rest := by
  induction quoted generalizing more with
  | close =>
    generalize start : quotationMark :: _ = input at also
    cases also with
    | close =>
      obtain ⟨-, rfl⟩ := List.cons.inj start
      exact ⟨rfl, rfl, .close⟩
    | piece accepts => exact absurd start.symm accepts.bytes_ne
  | @piece piece later rest pieces accepts quoted ih =>
    generalize start : piece.bytes ++ later = input at also
    cases also with
    | close => exact absurd start accepts.bytes_ne
    | @piece second rest others more agrees also =>
      obtain ⟨rfl, rfl, both⟩ := accepts.meet agrees start
      obtain ⟨rfl, rfl, meets⟩ := ih also
      exact ⟨rfl, rfl, .piece both meets⟩

/-- A number ends where the bytes of numbers do. -/
theorem takeWhile_number {token rest : Bytes} (digits : ∀ byte ∈ token, isNumberByte byte) (ends : NumberEnds rest) :
    (token ++ rest).takeWhile isNumberByte = token ∧ (token ++ rest).dropWhile isNumberByte = rest := by
  rw [List.takeWhile_append_of_pos digits, List.dropWhile_append_of_pos digits]
  cases rest with
  | nil => simp
  | cons byte rest =>
    have other : isNumberByte byte = false := ends byte rfl
    simp [other]

theorem number_unique {token second rest others : Bytes} (digits : ∀ byte ∈ token, isNumberByte byte)
    (more : ∀ byte ∈ second, isNumberByte byte) (ends : NumberEnds rest) (alsoEnds : NumberEnds others)
    (same : token ++ rest = second ++ others) : token = second ∧ rest = others := by
  obtain ⟨front, back⟩ := takeWhile_number digits ends
  obtain ⟨frontSecond, backSecond⟩ := takeWhile_number more alsoEnds
  rw [same] at front back
  exact ⟨front.symm.trans frontSecond, back.symm.trans backSecond⟩

inductive Kind where
  | null | boolean (value : Bool) | number | string | array | object
  deriving DecidableEq

def Document.kind : Document → Kind
  | .null => .null
  | .boolean value => .boolean value
  | .number _ => .number
  | .string _ => .string
  | .array _ => .array
  | .object _ => .object

/-- What a value is, by its first byte. -/
def kindOf (byte : UInt8) : Option Kind :=
  if byte = 0x6e then some .null
  else if byte = 0x74 then some (.boolean true)
  else if byte = 0x66 then some (.boolean false)
  else if byte = quotationMark then some .string
  else if byte = beginArray then some .array
  else if byte = beginObject then some .object
  else if isDigitByte byte ∨ byte = 0x2d then some .number
  else none

theorem kindOf_number {byte : UInt8} (start : isDigitByte byte ∨ byte = 0x2d) : kindOf byte = some .number := by
  have all : ∀ byte : Fin 256, isDigitByte (UInt8.ofNat byte) ∨ UInt8.ofNat byte = 0x2d →
      kindOf (UInt8.ofNat byte) = some .number := by decide +kernel
  simpa using all ⟨byte.toNat, byte.toNat_lt⟩ (by simpa using start)

theorem Derives.kind {input rest : Bytes} {document : Document} (derives : Derives dialect input (.value document) rest) :
    ∃ byte later, input = byte :: later ∧ kindOf byte = some document.kind := by
  cases derives with
  | @number token rest number ends =>
    obtain ⟨first, later, rfl, start⟩ := dialect.number_start token number
    exact ⟨first, later ++ rest, rfl, kindOf_number start⟩
  | _ => exact ⟨_, _, rfl, rfl⟩

theorem Derives.kind_of_cons {byte : UInt8} {input rest : Bytes} {document : Document}
    (derives : Derives dialect (byte :: input) (.value document) rest) : kindOf byte = some document.kind := by
  obtain ⟨first, later, same, kind⟩ := derives.kind
  rwa [(List.cons.inj same).1]

/-- No value begins with a closing bracket. -/
theorem Derives.not_endArray {input rest : Bytes} {document : Document} :
    ¬Derives dialect (endArray :: input) (.value document) rest := by
  intro derives
  have kind := derives.kind_of_cons
  rw [show kindOf endArray = none from by decide] at kind
  cases kind

theorem Derives.kind_unique {input rest others : Bytes} {document second : Document}
    (derives : Derives dialect input (.value document) rest) (also : Derives other input (.value second) others) :
    document.kind = second.kind := by
  obtain ⟨byte, later, rfl, kind⟩ := derives.kind
  have alsoKind := also.kind_of_cons
  rw [kind] at alsoKind
  exact Option.some.inj alsoKind

namespace Derives

/-! What a part of each kind is made of. -/

section Inversion

variable {input rest : Bytes} {start : Bool}

theorem null_inv (derives : Derives dialect input (.value .null) rest) :
    input = 0x6e :: 0x75 :: 0x6c :: 0x6c :: rest := by
  cases derives
  rfl

theorem boolean_inv {value : Bool} (derives : Derives dialect input (.value (.boolean value)) rest) :
    input = (if value then [0x74, 0x72, 0x75, 0x65] else [0x66, 0x61, 0x6c, 0x73, 0x65]) ++ rest := by
  cases derives <;> rfl

theorem number_inv {token : Bytes} (derives : Derives dialect input (.value (.number token)) rest) :
    dialect.number token ∧ NumberEnds rest ∧ input = token ++ rest := by
  cases derives with
  | number number ends => exact ⟨number, ends, rfl⟩

theorem string_inv {pieces : List Piece} (derives : Derives dialect (quotationMark :: input) (.value (.string pieces)) rest) :
    Quoted dialect input pieces rest := by
  generalize same : quotationMark :: input = whole at derives
  cases derives with
  | string quoted => exact (List.cons.inj same).2 ▸ quoted

theorem array_inv {items : List Document} (derives : Derives dialect (beginArray :: input) (.value (.array items)) rest) :
    Derives dialect (skipBlanks input) (.items true items) rest := by
  generalize same : beginArray :: input = whole at derives
  cases derives with
  | array inner => exact (List.cons.inj same).2 ▸ inner

theorem object_inv {members : List (List Piece × Document)}
    (derives : Derives dialect (beginObject :: input) (.value (.object members)) rest) :
    Derives dialect (skipBlanks input) (.members true members) rest := by
  generalize same : beginObject :: input = whole at derives
  cases derives with
  | object inner => exact (List.cons.inj same).2 ▸ inner

end Inversion

end Derives

/-- The parts of which one input can begin with one only. -/
def Part.SameKind : Part → Part → Prop
  | .value _, .value _ => True
  | .items start _, .items begun _ => start = begun
  | .members start _, .members begun _ => start = begun
  | _, _ => False

theorem Part.SameKind.value {document : Document} {second : Part} (same : (Part.value document).SameKind second) :
    ∃ other, second = .value other := by
  cases second with
  | value other => exact ⟨other, rfl⟩
  | _ => exact same.elim

theorem Part.SameKind.items {start : Bool} {items : List Document} {second : Part}
    (same : (Part.items start items).SameKind second) : ∃ others, second = .items start others := by
  cases second with
  | items begun others => exact ⟨others, by rw [show start = begun from same]⟩
  | _ => exact same.elim

theorem Part.SameKind.members {start : Bool} {members : List (List Piece × Document)} {second : Part}
    (same : (Part.members start members).SameKind second) : ∃ others, second = .members start others := by
  cases second with
  | members begun others => exact ⟨others, by rw [show start = begun from same]⟩
  | _ => exact same.elim

/-- Two dialects that both have a text read the same in it. -/
theorem Derives.meet {input rest others : Bytes} {part second : Part} (derives : Derives dialect input part rest)
    (also : Derives other input second others) (kind : part.SameKind second) :
    part = second ∧ rest = others ∧ Derives (dialect.meet other) input part rest := by
  induction derives generalizing second others with
  | @null rest =>
    obtain ⟨document, rfl⟩ := kind.value
    have same := (show Derives dialect _ (.value .null) rest from .null).kind_unique also
    cases document with
    | null =>
      have equal := also.null_inv
      simp only [List.cons.injEq, true_and] at equal
      exact ⟨rfl, equal, .null⟩
    | _ => cases same
  | @yes rest =>
    obtain ⟨document, rfl⟩ := kind.value
    have same := (show Derives dialect _ (.value (.boolean true)) rest from .yes).kind_unique also
    cases document with
    | boolean value =>
      cases same
      have equal := also.boolean_inv
      simp at equal
      exact ⟨rfl, equal, .yes⟩
    | _ => cases same
  | @no rest =>
    obtain ⟨document, rfl⟩ := kind.value
    have same := (show Derives dialect _ (.value (.boolean false)) rest from .no).kind_unique also
    cases document with
    | boolean value =>
      cases same
      have equal := also.boolean_inv
      simp at equal
      exact ⟨rfl, equal, .no⟩
    | _ => cases same
  | number number ends =>
    obtain ⟨document, rfl⟩ := kind.value
    have same := (Derives.number number ends).kind_unique also
    cases document with
    | number token =>
      obtain ⟨alsoNumber, alsoEnds, equal⟩ := also.number_inv
      obtain ⟨rfl, rfl⟩ := number_unique (dialect.number_bytes _ number) (other.number_bytes _ alsoNumber) ends alsoEnds equal
      exact ⟨rfl, rfl, .number ⟨number, alsoNumber⟩ ends⟩
    | _ => cases same
  | string quoted =>
    obtain ⟨document, rfl⟩ := kind.value
    have same := (Derives.string quoted).kind_unique also
    cases document with
    | string pieces =>
      obtain ⟨rfl, rfl, both⟩ := quoted.meet also.string_inv
      exact ⟨rfl, rfl, .string both⟩
    | _ => cases same
  | array inner ih =>
    obtain ⟨document, rfl⟩ := kind.value
    have same := (Derives.array inner).kind_unique also
    cases document with
    | array items =>
      obtain ⟨equal, rfl, both⟩ := ih also.array_inv rfl
      cases equal
      exact ⟨rfl, rfl, .array both⟩
    | _ => cases same
  | object inner ih =>
    obtain ⟨document, rfl⟩ := kind.value
    have same := (Derives.object inner).kind_unique also
    cases document with
    | object members =>
      obtain ⟨equal, rfl, both⟩ := ih also.object_inv rfl
      cases equal
      exact ⟨rfl, rfl, .object both⟩
    | _ => cases same
  | @noItem start rest allowed =>
    obtain ⟨items, rfl⟩ := kind.items
    generalize same : endArray :: rest = input at also
    cases also with
    | noItem alsoAllowed =>
      obtain ⟨-, rfl⟩ := List.cons.inj same
      exact ⟨rfl, rfl, .noItem (or_and_left.mpr ⟨allowed, alsoAllowed⟩)⟩
    | lastItem value => exact absurd (same ▸ value) not_endArray
    | nextItem value => exact absurd (same ▸ value) not_endArray
  | lastItem value closes ih =>
    obtain ⟨items, rfl⟩ := kind.items
    cases also with
    | noItem => exact absurd value not_endArray
    | lastItem alsoValue alsoCloses =>
      obtain ⟨equal, rfl, both⟩ := ih alsoValue trivial
      cases equal
      obtain ⟨-, rfl⟩ := List.cons.inj (closes.symm.trans alsoCloses)
      exact ⟨rfl, rfl, .lastItem both closes⟩
    | nextItem alsoValue separates =>
      obtain ⟨-, rfl, -⟩ := ih alsoValue trivial
      exact absurd (List.cons.inj (closes.symm.trans separates)).1 (by decide)
  | nextItem value separates rest ih ihRest =>
    obtain ⟨items, rfl⟩ := kind.items
    cases also with
    | noItem => exact absurd value not_endArray
    | lastItem alsoValue closes =>
      obtain ⟨-, rfl, -⟩ := ih alsoValue trivial
      exact absurd (List.cons.inj (separates.symm.trans closes)).1 (by decide)
    | nextItem alsoValue alsoSeparates alsoRest =>
      obtain ⟨equal, rfl, both⟩ := ih alsoValue trivial
      cases equal
      obtain ⟨-, rfl⟩ := List.cons.inj (separates.symm.trans alsoSeparates)
      obtain ⟨equal, rfl, bothRest⟩ := ihRest alsoRest rfl
      cases equal
      exact ⟨rfl, rfl, .nextItem both separates bothRest⟩
  | @noMember start rest allowed =>
    obtain ⟨members, rfl⟩ := kind.members
    generalize same : endObject :: rest = input at also
    cases also with
    | noMember alsoAllowed =>
      obtain ⟨-, rfl⟩ := List.cons.inj same
      exact ⟨rfl, rfl, .noMember (or_and_left.mpr ⟨allowed, alsoAllowed⟩)⟩
    | lastMember => exact absurd (List.cons.inj same).1 (by decide)
    | nextMember => exact absurd (List.cons.inj same).1 (by decide)
  | @lastMember start input named valued middle rest name item key separates value closes ih =>
    obtain ⟨members, rfl⟩ := kind.members
    generalize same : quotationMark :: input = whole at also
    cases also with
    | noMember => exact absurd (List.cons.inj same).1 (by decide)
    | lastMember alsoKey alsoSeparates alsoValue alsoCloses =>
      obtain ⟨-, rfl⟩ := List.cons.inj same
      obtain ⟨rfl, rfl, bothKey⟩ := key.meet alsoKey
      obtain ⟨-, rfl⟩ := List.cons.inj (separates.symm.trans alsoSeparates)
      obtain ⟨equal, rfl, both⟩ := ih alsoValue trivial
      cases equal
      obtain ⟨-, rfl⟩ := List.cons.inj (closes.symm.trans alsoCloses)
      exact ⟨rfl, rfl, .lastMember bothKey separates both closes⟩
    | nextMember alsoKey alsoSeparates alsoValue continues =>
      obtain ⟨-, rfl⟩ := List.cons.inj same
      obtain ⟨-, rfl, -⟩ := key.meet alsoKey
      obtain ⟨-, rfl⟩ := List.cons.inj (separates.symm.trans alsoSeparates)
      obtain ⟨-, rfl, -⟩ := ih alsoValue trivial
      exact absurd (List.cons.inj (closes.symm.trans continues)).1 (by decide)
  | @nextMember start input named valued middle later rest name item members key separates value continues others ih ihRest =>
    obtain ⟨members, rfl⟩ := kind.members
    generalize same : quotationMark :: input = whole at also
    cases also with
    | noMember => exact absurd (List.cons.inj same).1 (by decide)
    | lastMember alsoKey alsoSeparates alsoValue closes =>
      obtain ⟨-, rfl⟩ := List.cons.inj same
      obtain ⟨-, rfl, -⟩ := key.meet alsoKey
      obtain ⟨-, rfl⟩ := List.cons.inj (separates.symm.trans alsoSeparates)
      obtain ⟨-, rfl, -⟩ := ih alsoValue trivial
      exact absurd (List.cons.inj (continues.symm.trans closes)).1 (by decide)
    | nextMember alsoKey alsoSeparates alsoValue alsoContinues alsoOthers =>
      obtain ⟨-, rfl⟩ := List.cons.inj same
      obtain ⟨rfl, rfl, bothKey⟩ := key.meet alsoKey
      obtain ⟨-, rfl⟩ := List.cons.inj (separates.symm.trans alsoSeparates)
      obtain ⟨equal, rfl, both⟩ := ih alsoValue trivial
      cases equal
      obtain ⟨-, rfl⟩ := List.cons.inj (continues.symm.trans alsoContinues)
      obtain ⟨equal, rfl, bothOthers⟩ := ihRest alsoOthers rfl
      cases equal
      exact ⟨rfl, rfl, .nextMember bothKey separates both continues bothOthers⟩

theorem IsText.meet {input : Bytes} {document second : Document} (text : IsText dialect input document)
    (also : IsText other input second) : document = second ∧ IsText (dialect.meet other) input document := by
  obtain ⟨rest, derives, ended⟩ := text
  obtain ⟨others, alsoDerives, -⟩ := also
  obtain ⟨equal, -, both⟩ := derives.meet alsoDerives trivial
  cases equal
  exact ⟨rfl, rest, both, ended⟩

/-- A text has one document. -/
theorem IsText.unique {input : Bytes} {document second : Document} (text : IsText dialect input document)
    (also : IsText dialect input second) : document = second :=
  (text.meet also).1

end Meet

end JsonText
end TelemetryFabric.Library
