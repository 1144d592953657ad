import TelemetryFabric.ControlPlane.JsonDecode

/-!
`decode!` against the standard: it takes exactly the texts of its dialect, it fails otherwise than
by an `ArgumentError` exactly where a string breaks off at something that is no character or no
number, and it is the parser it means to be exactly where its dialect and the standard agree.
-/

namespace TelemetryFabric.ControlPlane
open Library Library.JsonText

namespace Json

/-! ### What documents stand for -/

section Meaning

variable {F : Type} (nearest : Decimal → Option F) (text : List Piece → Option String)

/-- The last of the fields of each name. -/
def lastOf (fields : List (String × Json F)) (earlier : JsonObject F) : JsonObject F :=
  fields.foldl (fun fields field => OrderedMap.place field.1 field.2 fields) earlier

mutual

/-- The value of a document, if all of its strings and numbers have one. -/
def valueOf : Document → Option (Json F)
  | .null => some .null
  | .boolean value => some (.boolean value)
  | .number token => numberValue nearest token
  | .string pieces => (text pieces).map .string
  | .array items => (valuesOf items).map .array
  | .object members => (fieldsOf members).map fun fields => .object (lastOf fields [])

def valuesOf : List Document → Option (List (Json F))
  | [] => some []
  | item :: rest => do
      let value ← valueOf item
      let others ← valuesOf rest
      return value :: others

def fieldsOf : List (List Piece × Document) → Option (List (String × Json F))
  | [] => some []
  | (name, item) :: rest => do
      let key ← text name
      let value ← valueOf item
      let others ← fieldsOf rest
      return (key, value) :: others

end

/-- The value a standard text denotes. -/
def denoted (document : Document) : Option (Json F) :=
  valueOf nearest (fun pieces => (characters pieces).map String.ofList) document

end Meaning

/-! ### Ends of the parser -/

/-- The parser ends by something else than an `ArgumentError`. -/
def Crashes {α : Type} (result : Except DecodeError α) : Prop :=
  ∃ failure, result = .error failure ∧ failure.isArgumentError = false

theorem Crashes.bind {α β : Type} {result : Except DecodeError α} (crashes : Crashes result)
    (next : α → Except DecodeError β) : Crashes (result.bind next) := by
  obtain ⟨failure, rfl, other⟩ := crashes
  exact ⟨failure, rfl, other⟩

/-- Either the parser takes something and leaves a fitting rest, or it raises an `ArgumentError`, or
it is stuck. -/
def Settles {α : Type} (taken : Bytes → Prop) (stuck : Prop) : Except DecodeError (α × Bytes) → Prop
  | .ok (_, rest) => taken rest
  | .error failure => failure.isArgumentError = true ∨ stuck

theorem Settles.mono {α : Type} {taken takenNext : Bytes → Prop} {stuck stuckNext : Prop}
    {result : Except DecodeError (α × Bytes)} (settles : Settles taken stuck result)
    (takes : ∀ rest, taken rest → takenNext rest) (blocks : stuck → stuckNext) : Settles takenNext stuckNext result := by
  cases result with
  | error failure => exact settles.imp_right blocks
  | ok found => exact takes found.2 settles

theorem Settles.bind {α β : Type} {taken takenNext : Bytes → Prop} {stuck stuckNext : Prop}
    {result : Except DecodeError (α × Bytes)} {next : α × Bytes → Except DecodeError (β × Bytes)}
    (settles : Settles taken stuck result) (blocks : stuck → stuckNext)
    (continues : ∀ value rest, taken rest → Settles takenNext stuckNext (next (value, rest))) :
    Settles takenNext stuckNext (result.bind next) := by
  cases result with
  | error failure => exact settles.imp_right blocks
  | ok found => exact continues found.1 found.2 settles

/-! ### Strings -/

def pieceChar : Piece → Option Char
  | .plain c => some c
  | .escape letter => some letter.char
  | .unicode first second third fourth => (codepoint first second third fourth).bind utf8Char

/-- The text that `parse_string` makes of pieces. -/
def pieceText (pieces : List Piece) : Option String := (pieces.mapM pieceChar).map String.ofList

/-- Bytes in a string that no clause of `parse_string` matches, or whose escape is no number. -/
def Malformed (input : Bytes) : Prop :=
  (input ≠ [] ∧ readChar? input = none) ∨
    ∃ first second third fourth rest,
      input = backslash :: letterU :: first :: second :: third :: fourth :: rest ∧
        codepoint first second third fourth = none

theorem unescape_eq_some {letter : UInt8} {c : Char} (found : unescape letter = some c) :
    ∃ escape : Escape, letter = escape.letter ∧ c = escape.char := by
  unfold unescape at found
  split_ifs at found <;> cases found
  · exact ⟨.quotationMark, ‹_›, rfl⟩
  · exact ⟨.backslash, ‹_›, rfl⟩
  · exact ⟨.slash, ‹_›, rfl⟩
  · exact ⟨.backspace, ‹_›, rfl⟩
  · exact ⟨.formFeed, ‹_›, rfl⟩
  · exact ⟨.lineFeed, ‹_›, rfl⟩
  · exact ⟨.carriageReturn, ‹_›, rfl⟩
  · exact ⟨.tab, ‹_›, rfl⟩

theorem unescape_letter (letter : Escape) : unescape letter.letter = some letter.char := by
  cases letter <;> rfl

theorem stringStep_unicode (first second third fourth : UInt8) (rest : Bytes) :
    stringStep (backslash :: letterU :: first :: second :: third :: fourth :: rest) =
      match codepoint first second third fourth with
      | some number => match utf8Char number with
          | some c => .ok (.char c rest)
          | none => .error .badArgument
      | none => .error .noMatch := by
  unfold codepoint
  simp only [stringStep, show unescape letterU = none from by decide]
  rcases integerParse [first, second, third, fourth] with _ | ⟨number, _ | ⟨byte, left⟩⟩ <;> rfl

theorem stringStep_plain {input : Bytes} (some : input ≠ []) (unquoted : ∀ rest, input ≠ quotationMark :: rest)
    (unescaped : ∀ later, input = backslash :: later → ¬StartsEscape later) : stringStep input = plainStep input := by
  unfold stringStep
  split
  · exact absurd rfl some
  · exact absurd rfl (unquoted _)
  next letter rest =>
    split
    next c found =>
      obtain ⟨escape, rfl, -⟩ := unescape_eq_some found
      exact absurd (.inl ⟨escape, rest, rfl⟩) (unescaped _ rfl)
    next =>
      split
      · exact absurd (.inr ⟨_, _, _, _, _, rfl⟩) (unescaped _ rfl)
      · rfl
  · rfl

section Accepted

variable {F : Type} {nearest : Decimal → Option F}

theorem stringStep_piece {piece : Piece} {later : Bytes} (accepts : (dialect nearest).Accepts piece later) :
    ∃ c, pieceChar piece = some c ∧ stringStep (piece.bytes ++ later) = .ok (.char c later) := by
  cases piece with
  | plain c =>
    refine ⟨c, rfl, ?_⟩
    rw [stringStep_plain]
    · unfold plainStep
      rw [show Piece.bytes (.plain c) = String.utf8EncodeChar c from rfl, readChar?_append]
    · simp [Piece.bytes, String.utf8EncodeChar_ne_nil]
    · exact fun rest => accepts.bytes_ne
    · intro rest same
      obtain ⟨rfl, rfl⟩ := plain_backslash same
      exact accepts.2 rfl
  | escape letter =>
    refine ⟨letter.char, rfl, ?_⟩
    simp [Piece.bytes, stringStep, unescape_letter]
  | unicode first second third fourth =>
    obtain ⟨c, found⟩ := Option.isSome_iff_exists.mp accepts
    refine ⟨c, found, ?_⟩
    obtain ⟨number, read, char⟩ := Option.bind_eq_some_iff.mp found
    have step := stringStep_unicode first second third fourth later
    rw [read] at step
    simp only [char] at step
    exact step

/-- The clauses of `parse_string`: the end, a piece, or a failure, which is an `ArgumentError` but
for malformed bytes. -/
theorem stringStep_cases (nearest : Decimal → Option F) (input : Bytes) :
    match stringStep input with
    | .ok (.closed rest) => input = quotationMark :: rest
    | .ok (.char _ rest) => ∃ piece : Piece, input = piece.bytes ++ rest ∧ (dialect nearest).Accepts piece rest
    | .error failure => failure.isArgumentError ∨ Malformed input := by
  by_cases ended : input = []
  · subst ended
    exact .inl rfl
  by_cases closed : ∃ rest, input = quotationMark :: rest
  · obtain ⟨rest, rfl⟩ := closed
    rfl
  by_cases escaped : ∃ later, input = backslash :: later ∧ StartsEscape later
  · obtain ⟨later, rfl, ⟨letter, rest, rfl⟩ | ⟨first, second, third, fourth, rest, rfl⟩⟩ := escaped
    · have step : stringStep (backslash :: letter.letter :: rest) = .ok (.char letter.char rest) := by
        simp [stringStep, unescape_letter]
      rw [step]
      exact ⟨.escape letter, rfl, trivial⟩
    · rw [stringStep_unicode]
      cases read : codepoint first second third fourth with
      | none => exact .inr (.inr ⟨first, second, third, fourth, rest, rfl, read⟩)
      | some number =>
        cases char : utf8Char number with
        | none => simp [char, DecodeError.isArgumentError]
        | some c =>
          simp only [char]
          exact ⟨.unicode first second third fourth, rfl, by simp [Dialect.Accepts, dialect, read, char]⟩
  · rw [stringStep_plain ended (fun rest same => closed ⟨rest, same⟩) (fun later same starts => escaped ⟨later, same, starts⟩)]
    unfold plainStep
    cases read : readChar? input with
    | none => exact .inr (.inl ⟨ended, read⟩)
    | some found =>
      obtain ⟨c, rest⟩ := found
      have split := readChar?_eq_some_iff.mp read
      refine ⟨.plain c, split, ?_, ?_⟩
      · rintro rfl
        exact closed ⟨rest, split⟩
      · rintro rfl starts
        exact escaped ⟨rest, split, starts⟩

theorem stringStep_malformed {input : Bytes} (malformed : Malformed input) : Crashes (stringStep input) := by
  obtain ⟨some, unread⟩ | ⟨first, second, third, fourth, rest, rfl, unread⟩ := malformed
  · have ascii : ∀ (c : Char) (rest : Bytes), input ≠ String.utf8EncodeChar c ++ rest := by
      rintro c rest rfl
      rw [readChar?_append] at unread
      cases unread
    rw [stringStep_plain some (ascii '"') fun later same => absurd same (ascii '\\' later)]
    exact ⟨.noClause, by simp [plainStep, unread], rfl⟩
  · rw [stringStep_unicode, unread]
    exact ⟨.noMatch, rfl, rfl⟩

/-- A string in which the parser comes to malformed bytes. -/
inductive StuckString (nearest : Decimal → Option F) : Bytes → Prop
  | here {input : Bytes} (malformed : Malformed input) : StuckString nearest input
  | later {piece : Piece} {later : Bytes} (accepts : (dialect nearest).Accepts piece later)
      (stuck : StuckString nearest later) : StuckString nearest (piece.bytes ++ later)

theorem parseString_quoted {input rest : Bytes} {pieces : List Piece} (quoted : Quoted (dialect nearest) input pieces rest) :
    ∃ text, pieces.mapM pieceChar = some text ∧ ∀ fuel acc, input.length ≤ fuel →
      parseString fuel input acc = .ok (String.ofList (acc.reverse ++ text), rest) := by
  induction quoted with
  | close =>
    refine ⟨[], rfl, fun fuel acc enough => ?_⟩
    cases fuel with
    | zero => simp at enough
    | succ fuel =>
      rw [List.append_nil]
      rfl
  | @piece piece later rest pieces accepts quoted ih =>
    obtain ⟨text, read, parses⟩ := ih
    obtain ⟨c, char, step⟩ := stringStep_piece accepts
    refine ⟨c :: text, by simp [char, read], fun fuel acc enough => ?_⟩
    have shorter := piece.length_append later
    cases fuel with
    | zero => omega
    | succ fuel =>
      unfold parseString
      rw [step]
      have next := parses fuel (c :: acc) (by omega)
      rw [List.reverse_cons, List.append_assoc] at next
      exact next

theorem parseString_sound (nearest : Decimal → Option F) (fuel : Nat) (input : Bytes) (acc : List Char)
    (enough : input.length < fuel) :
    Settles (fun rest => ∃ pieces, Quoted (dialect nearest) input pieces rest) (StuckString nearest input)
      (parseString fuel input acc) := by
  induction fuel generalizing input acc with
  | zero => omega
  | succ fuel ih =>
    have step := stringStep_cases nearest input
    unfold parseString
    cases made : stringStep input with
    | error failure =>
      rw [made] at step
      exact step.imp_right .here
    | ok result =>
      rw [made] at step
      cases result with
      | closed rest =>
        obtain rfl := step
        exact ⟨[], .close⟩
      | char c rest =>
        obtain ⟨piece, rfl, accepts⟩ := step
        have shorter := piece.length_append rest
        have next := ih rest (c :: acc) (by omega)
        show Settles _ _ (parseString fuel rest (c :: acc))
        cases later : parseString fuel rest (c :: acc) with
        | error failure =>
          rw [later] at next
          exact next.imp_right (.later accepts)
        | ok found =>
          rw [later] at next
          obtain ⟨pieces, quoted⟩ := next
          exact ⟨piece :: pieces, .piece accepts quoted⟩

theorem parseString_stuck {input : Bytes} (stuck : StuckString nearest input) (fuel : Nat) (acc : List Char) :
    Crashes (parseString fuel input acc) := by
  induction stuck generalizing fuel acc with
  | here malformed =>
    cases fuel with
    | zero => exact ⟨.unfinished, rfl, rfl⟩
    | succ fuel =>
      obtain ⟨failure, step, other⟩ := stringStep_malformed malformed
      exact ⟨failure, by simp [parseString, step, bind, Except.bind], other⟩
  | later accepts stuck ih =>
    cases fuel with
    | zero => exact ⟨.unfinished, rfl, rfl⟩
    | succ fuel =>
      obtain ⟨c, -, step⟩ := stringStep_piece accepts
      obtain ⟨failure, next, other⟩ := ih fuel (c :: acc)
      exact ⟨failure, by simp [parseString, step, bind, Except.bind, next], other⟩

/-! ### Values -/

theorem parseArray_item {input : Bytes} (solid : ∀ rest, input ≠ endArray :: rest) (fuel : Nat) (acc : List (Json F)) :
    parseArray nearest (fuel + 1) input acc = (parseValue nearest fuel input).bind fun (value, rest) =>
      match skipBlanks rest with
      | 0x2c :: rest => parseArray nearest fuel (skipBlanks rest) (value :: acc)
      | 0x5d :: rest => .ok (.array (value :: acc).reverse, rest)
      | _ => .error (.argument "expected comma or array terminator") := by
  simp only [← skipWs_eq]
  rw [parseArray.eq_3 _ _ _ _ solid]
  rfl

theorem parseObject_member (input : Bytes) (fuel : Nat) (acc : JsonObject F) :
    parseObject nearest (fuel + 1) (quotationMark :: input) acc =
      (parseString (input.length + 1) input []).bind fun (key, rest) =>
        match skipBlanks rest with
        | 0x3a :: rest => (parseValue nearest fuel (skipBlanks rest)).bind fun (value, rest) =>
            match skipBlanks rest with
            | 0x2c :: rest => parseObject nearest fuel (skipBlanks rest) (OrderedMap.place key value acc)
            | 0x7d :: rest => .ok (.object (OrderedMap.place key value acc), rest)
            | _ => .error (.argument "expected comma or object terminator")
        | _ => .error (.argument "expected object key separator") := by
  simp only [← skipWs_eq]
  rw [parseObject.eq_3]
  rfl

theorem parseValue_string (input : Bytes) (fuel : Nat) :
    parseValue nearest (fuel + 1) (quotationMark :: input) =
      (parseString (input.length + 1) input []).bind fun (text, rest) => .ok (.string text, rest) := by
  rw [parseValue]
  rfl

theorem parseValue_array (input : Bytes) (fuel : Nat) :
    parseValue nearest (fuel + 1) (beginArray :: input) = parseArray nearest fuel (skipBlanks input) [] := by
  rw [← skipWs_eq, parseValue]

theorem parseValue_object (input : Bytes) (fuel : Nat) :
    parseValue nearest (fuel + 1) (beginObject :: input) = parseObject nearest fuel (skipBlanks input) [] := by
  rw [← skipWs_eq, parseValue]

theorem parseValue_number {first : UInt8} (start : isDigitByte first ∨ first = 0x2d) (rest : Bytes) (fuel : Nat) :
    parseValue nearest (fuel + 1) (first :: rest) = parseNumber nearest (first :: rest) := by
  have other : ∀ {byte : UInt8}, (isDigitByte byte || byte = 0x2d) = false → first ≠ byte := by
    rintro byte neither rfl
    simp only [Bool.or_eq_false_iff, decide_eq_false_iff_not] at neither
    exact start.elim (fun digit => absurd digit (by simp [neither.1])) neither.2
  rw [parseValue.eq_8]
  · simp only [start.symm, if_true]
  all_goals
    intro _ same
    exact other (by decide) (List.cons.inj same).1

/-- What the parser makes of a part of a text of its dialect. -/
def Parsed (nearest : Decimal → Option F) (input rest : Bytes) : Part → Prop
  | .value document => ∃ value, valueOf nearest pieceText document = some value ∧
      ∀ fuel, 2 * input.length + 1 ≤ fuel → parseValue nearest fuel input = .ok (value, rest)
  | .items _ documents => ∃ values, valuesOf nearest pieceText documents = some values ∧
      ∀ fuel acc, 2 * input.length + 2 ≤ fuel → parseArray nearest fuel input acc = .ok (.array (acc.reverse ++ values), rest)
  | .members _ entries => ∃ fields, fieldsOf nearest pieceText entries = some fields ∧
      ∀ fuel acc, 2 * input.length + 2 ≤ fuel → parseObject nearest fuel input acc = .ok (.object (lastOf fields acc), rest)

theorem parsed_of_derives {input rest : Bytes} {part : Part} (derives : Derives (dialect nearest) input part rest) :
    Parsed nearest input rest part := by
  induction derives with
  | null =>
    refine ⟨.null, rfl, fun fuel enough => ?_⟩
    obtain ⟨fuel, rfl⟩ := Nat.exists_eq_add_one_of_ne_zero (show fuel ≠ 0 by omega)
    rw [parseValue]
  | yes =>
    refine ⟨.boolean true, rfl, fun fuel enough => ?_⟩
    obtain ⟨fuel, rfl⟩ := Nat.exists_eq_add_one_of_ne_zero (show fuel ≠ 0 by omega)
    rw [parseValue]
  | no =>
    refine ⟨.boolean false, rfl, fun fuel enough => ?_⟩
    obtain ⟨fuel, rfl⟩ := Nat.exists_eq_add_one_of_ne_zero (show fuel ≠ 0 by omega)
    rw [parseValue]
  | @number token rest number ends =>
    obtain ⟨made, valued⟩ := tokenValue_of_number number
    obtain ⟨value, valued⟩ := Option.isSome_iff_exists.mp valued
    refine ⟨value, valued, fun fuel enough => ?_⟩
    obtain ⟨fuel, rfl⟩ := Nat.exists_eq_add_one_of_ne_zero (show fuel ≠ 0 by omega)
    obtain ⟨first, later, same, start⟩ := (dialect nearest).number_start token number
    obtain ⟨front, back⟩ := takeWhile_number ((dialect nearest).number_bytes token number) ends
    have parses := parseNumber_eq nearest (token ++ rest)
    rw [front, back, made, valued] at parses
    rw [same] at parses ⊢
    exact (parseValue_number start _ _).trans parses
  | @string input rest pieces quoted =>
    obtain ⟨text, read, parses⟩ := parseString_quoted quoted
    refine ⟨.string (String.ofList text), by simp [valueOf, pieceText, read], fun fuel enough => ?_⟩
    obtain ⟨fuel, rfl⟩ := Nat.exists_eq_add_one_of_ne_zero (show fuel ≠ 0 by omega)
    rw [parseValue_string, parses _ _ (Nat.le_succ _)]
    rfl
  | @array input rest items inner ih =>
    obtain ⟨values, read, parses⟩ := ih
    refine ⟨.array values, by simp [valueOf, read], fun fuel enough => ?_⟩
    obtain ⟨fuel, rfl⟩ := Nat.exists_eq_add_one_of_ne_zero (show fuel ≠ 0 by omega)
    have := length_skipBlanks_le input
    rw [List.length_cons] at enough
    rw [parseValue_array, parses fuel [] (by omega)]
    rfl
  | @object input rest members inner ih =>
    obtain ⟨fields, read, parses⟩ := ih
    refine ⟨.object (lastOf fields []), by simp [valueOf, read], fun fuel enough => ?_⟩
    obtain ⟨fuel, rfl⟩ := Nat.exists_eq_add_one_of_ne_zero (show fuel ≠ 0 by omega)
    have := length_skipBlanks_le input
    rw [List.length_cons] at enough
    rw [parseValue_object, parses fuel [] (by omega)]
  | noItem =>
    refine ⟨[], rfl, fun fuel acc enough => ?_⟩
    obtain ⟨fuel, rfl⟩ := Nat.exists_eq_add_one_of_ne_zero (show fuel ≠ 0 by omega)
    rw [parseArray, List.append_nil]
  | @lastItem start input middle rest item value closes ih =>
    obtain ⟨made, read, parses⟩ := ih
    refine ⟨[made], by simp [valuesOf, read], fun fuel acc enough => ?_⟩
    obtain ⟨fuel, rfl⟩ := Nat.exists_eq_add_one_of_ne_zero (show fuel ≠ 0 by omega)
    rw [parseArray_item (fun rest same => Derives.not_endArray (same ▸ value)), parses fuel (by omega)]
    simp [Except.bind, closes]
  | @nextItem start input middle later rest item items value separates others ih ihRest =>
    obtain ⟨made, read, parses⟩ := ih
    obtain ⟨values, readRest, parsesRest⟩ := ihRest
    refine ⟨made :: values, by simp [valuesOf, read, readRest], fun fuel acc enough => ?_⟩
    obtain ⟨fuel, rfl⟩ := Nat.exists_eq_add_one_of_ne_zero (show fuel ≠ 0 by omega)
    have := value.length_lt
    have := length_of_skipBlanks separates
    have := length_skipBlanks_le later
    rw [parseArray_item (fun rest same => Derives.not_endArray (same ▸ value)), parses fuel (by omega)]
    simp [Except.bind, separates, parsesRest fuel (made :: acc) (by omega)]
  | noMember =>
    refine ⟨[], rfl, fun fuel acc enough => ?_⟩
    obtain ⟨fuel, rfl⟩ := Nat.exists_eq_add_one_of_ne_zero (show fuel ≠ 0 by omega)
    rw [parseObject]
    rfl
  | @lastMember start input named valued middle rest name item key separates value closes ih =>
    obtain ⟨made, read, parses⟩ := ih
    obtain ⟨text, readKey, parsesKey⟩ := parseString_quoted key
    refine ⟨[(String.ofList text, made)], by simp [fieldsOf, pieceText, readKey, read], fun fuel acc enough => ?_⟩
    obtain ⟨fuel, rfl⟩ := Nat.exists_eq_add_one_of_ne_zero (show fuel ≠ 0 by omega)
    have := key.length_lt
    have := length_of_skipBlanks separates
    have := length_skipBlanks_le valued
    rw [List.length_cons] at enough
    rw [parseObject_member, parsesKey _ _ (Nat.le_succ _)]
    simp [Except.bind, separates, parses fuel (by omega), closes, lastOf]
  | @nextMember start input named valued middle later rest name item members key separates value continues others ih ihRest =>
    obtain ⟨made, read, parses⟩ := ih
    obtain ⟨fields, readRest, parsesRest⟩ := ihRest
    obtain ⟨text, readKey, parsesKey⟩ := parseString_quoted key
    refine ⟨(String.ofList text, made) :: fields, by simp [fieldsOf, pieceText, readKey, read, readRest],
      fun fuel acc enough => ?_⟩
    obtain ⟨fuel, rfl⟩ := Nat.exists_eq_add_one_of_ne_zero (show fuel ≠ 0 by omega)
    have := key.length_lt
    have := length_of_skipBlanks separates
    have := length_skipBlanks_le valued
    have := value.length_lt
    have := length_of_skipBlanks continues
    have := length_skipBlanks_le later
    rw [List.length_cons] at enough
    rw [parseObject_member, parsesKey _ _ (Nat.le_succ _)]
    simp [Except.bind, separates, parses fuel (by omega), continues, parsesRest fuel _ (by omega), lastOf]

/-- Parts without what they hold. -/
inductive Section where
  | value
  | items
  | members

/-- An input in which the parser comes to malformed bytes in a string. -/
inductive Stuck (nearest : Decimal → Option F) : Bytes → Section → Prop
  | string {input : Bytes} (stuck : StuckString nearest input) : Stuck nearest (quotationMark :: input) .value
  | array {input : Bytes} (stuck : Stuck nearest (skipBlanks input) .items) : Stuck nearest (beginArray :: input) .value
  | object {input : Bytes} (stuck : Stuck nearest (skipBlanks input) .members) : Stuck nearest (beginObject :: input) .value
  | item {input : Bytes} (stuck : Stuck nearest input .value) : Stuck nearest input .items
  | nextItem {input middle later : Bytes} {item : Document} (value : Derives (dialect nearest) input (.value item) middle)
      (separates : skipBlanks middle = comma :: later) (stuck : Stuck nearest (skipBlanks later) .items) :
      Stuck nearest input .items
  | name {input : Bytes} (stuck : StuckString nearest input) : Stuck nearest (quotationMark :: input) .members
  | member {input named valued : Bytes} {name : List Piece} (key : Quoted (dialect nearest) input name named)
      (separates : skipBlanks named = colon :: valued) (stuck : Stuck nearest (skipBlanks valued) .value) :
      Stuck nearest (quotationMark :: input) .members
  | nextMember {input named valued middle later : Bytes} {name : List Piece} {item : Document}
      (key : Quoted (dialect nearest) input name named) (separates : skipBlanks named = colon :: valued)
      (value : Derives (dialect nearest) (skipBlanks valued) (.value item) middle)
      (continues : skipBlanks middle = comma :: later) (stuck : Stuck nearest (skipBlanks later) .members) :
      Stuck nearest (quotationMark :: input) .members

/-- What a section of the parser does in an input that it is stuck in. -/
def CrashesIn (nearest : Decimal → Option F) (input : Bytes) : Section → Prop
  | .value => ∀ fuel, 2 * input.length + 1 ≤ fuel → Crashes (parseValue nearest fuel input)
  | .items => ∀ fuel acc, 2 * input.length + 2 ≤ fuel → Crashes (parseArray nearest fuel input acc)
  | .members => ∀ fuel acc, 2 * input.length + 2 ≤ fuel → Crashes (parseObject nearest fuel input acc)

theorem Stuck.not_endArray {input : Bytes} : ¬Stuck nearest (endArray :: input) .value := by
  intro stuck
  generalize same : endArray :: input = whole at stuck
  cases stuck <;> exact absurd (List.cons.inj same).1 (by decide)

theorem crashesIn_of_stuck {input : Bytes} {part : Section} (stuck : Stuck nearest input part) :
    CrashesIn nearest input part := by
  induction stuck with
  | string stuck =>
    intro fuel enough
    obtain ⟨fuel, rfl⟩ := Nat.exists_eq_add_one_of_ne_zero (show fuel ≠ 0 by omega)
    rw [parseValue_string]
    exact (parseString_stuck stuck _ _).bind _
  | @array input stuck ih =>
    intro fuel enough
    obtain ⟨fuel, rfl⟩ := Nat.exists_eq_add_one_of_ne_zero (show fuel ≠ 0 by omega)
    have := length_skipBlanks_le input
    rw [List.length_cons] at enough
    rw [parseValue_array]
    exact ih fuel [] (by omega)
  | @object input stuck ih =>
    intro fuel enough
    obtain ⟨fuel, rfl⟩ := Nat.exists_eq_add_one_of_ne_zero (show fuel ≠ 0 by omega)
    have := length_skipBlanks_le input
    rw [List.length_cons] at enough
    rw [parseValue_object]
    exact ih fuel [] (by omega)
  | item stuck ih =>
    intro fuel acc enough
    obtain ⟨fuel, rfl⟩ := Nat.exists_eq_add_one_of_ne_zero (show fuel ≠ 0 by omega)
    rw [parseArray_item fun rest same => Stuck.not_endArray (same ▸ stuck)]
    exact (ih fuel (by omega)).bind _
  | @nextItem input middle later item value separates stuck ih =>
    intro fuel acc enough
    obtain ⟨fuel, rfl⟩ := Nat.exists_eq_add_one_of_ne_zero (show fuel ≠ 0 by omega)
    obtain ⟨made, -, parses⟩ := parsed_of_derives value
    have := value.length_lt
    have := length_of_skipBlanks separates
    have := length_skipBlanks_le later
    rw [parseArray_item fun rest same => Derives.not_endArray (same ▸ value), parses fuel (by omega)]
    simp only [Except.bind, separates]
    exact ih fuel _ (by omega)
  | name stuck =>
    intro fuel acc enough
    obtain ⟨fuel, rfl⟩ := Nat.exists_eq_add_one_of_ne_zero (show fuel ≠ 0 by omega)
    rw [parseObject_member]
    exact (parseString_stuck stuck _ _).bind _
  | @member input named valued name key separates stuck ih =>
    intro fuel acc enough
    obtain ⟨fuel, rfl⟩ := Nat.exists_eq_add_one_of_ne_zero (show fuel ≠ 0 by omega)
    obtain ⟨text, -, parsesKey⟩ := parseString_quoted key
    have := key.length_lt
    have := length_of_skipBlanks separates
    have := length_skipBlanks_le valued
    rw [List.length_cons] at enough
    rw [parseObject_member, parsesKey _ _ (Nat.le_succ _)]
    simp only [Except.bind, separates]
    exact (ih fuel (by omega)).bind _
  | @nextMember input named valued middle later name item key separates value continues stuck ih =>
    intro fuel acc enough
    obtain ⟨fuel, rfl⟩ := Nat.exists_eq_add_one_of_ne_zero (show fuel ≠ 0 by omega)
    obtain ⟨text, -, parsesKey⟩ := parseString_quoted key
    obtain ⟨made, -, parses⟩ := parsed_of_derives value
    have := key.length_lt
    have := length_of_skipBlanks separates
    have := length_skipBlanks_le valued
    have := value.length_lt
    have := length_of_skipBlanks continues
    have := length_skipBlanks_le later
    rw [List.length_cons] at enough
    rw [parseObject_member, parsesKey _ _ (Nat.le_succ _)]
    simp only [Except.bind, separates, parses fuel (by omega), continues]
    exact ih fuel _ (by omega)

/-- With enough steps the parser takes only texts of its dialect, and refuses the rest by an
`ArgumentError` where it is not stuck. -/
structure Sound (nearest : Decimal → Option F) (fuel : Nat) : Prop where
  value : ∀ input, 2 * input.length + 1 ≤ fuel →
    Settles (fun rest => ∃ document, Derives (dialect nearest) input (.value document) rest) (Stuck nearest input .value)
      (parseValue nearest fuel input)
  items : ∀ input acc, 2 * input.length + 2 ≤ fuel →
    Settles (fun rest => ∀ start, ∃ documents, Derives (dialect nearest) input (.items start documents) rest)
      (Stuck nearest input .items) (parseArray nearest fuel input acc)
  members : ∀ input acc, 2 * input.length + 2 ≤ fuel →
    Settles (fun rest => ∀ start, ∃ entries, Derives (dialect nearest) input (.members start entries) rest)
      (Stuck nearest input .members) (parseObject nearest fuel input acc)

theorem numberEnds_dropWhile (input : Bytes) : NumberEnds (input.dropWhile isNumberByte) := by
  intro byte member
  have ended := List.head?_dropWhile_not isNumberByte input
  rw [Option.mem_def.mp member] at ended
  exact ended

theorem parseNumber_sound {first : UInt8} (start : isDigitByte first ∨ first = 0x2d) (rest : Bytes) :
    Settles (fun left => ∃ document, Derives (dialect nearest) (first :: rest) (.value document) left)
      (Stuck nearest (first :: rest) .value) (parseNumber nearest (first :: rest)) := by
  have numeric : isNumberByte first = true := by
    rcases start with digit | rfl
    · exact isNumberByte_of_isDigitByte digit
    · decide
  rw [parseNumber_eq]
  cases made : tokenValue nearest ((first :: rest).takeWhile isNumberByte) with
  | none => exact .inl rfl
  | some value =>
    have token : ∃ head tail, (first :: rest).takeWhile isNumberByte = head :: tail ∧ (isDigitByte head ∨ head = 0x2d) :=
      ⟨first, _, List.takeWhile_cons_of_pos numeric, start⟩
    have derives := Derives.number (number_of_tokenValue token made) (numberEnds_dropWhile (first :: rest))
    rw [List.takeWhile_append_dropWhile] at derives
    exact ⟨_, derives⟩

theorem parseValue_sound {fuel : Nat} (sound : Sound nearest fuel) (input : Bytes) (enough : 2 * input.length + 1 ≤ fuel + 1) :
    Settles (fun rest => ∃ document, Derives (dialect nearest) input (.value document) rest) (Stuck nearest input .value)
      (parseValue nearest (fuel + 1) input) := by
  unfold parseValue
  split
  · cases ‹_ = 0›
  · exact ⟨.null, .null⟩
  · exact ⟨.boolean true, .yes⟩
  · exact ⟨.boolean false, .no⟩
  next rest _ =>
    apply (parseString_sound nearest (rest.length + 1) rest [] (Nat.lt_succ_self _)).bind .string
    intro text left quoted
    obtain ⟨pieces, quoted⟩ := quoted
    exact ⟨.string pieces, .string quoted⟩
  next rest same =>
    cases same
    have := length_skipBlanks_le rest
    rw [List.length_cons] at enough
    rw [skipWs_eq]
    apply (sound.members (skipBlanks rest) [] (by omega)).mono _ .object
    intro left derives
    obtain ⟨entries, derives⟩ := derives true
    exact ⟨.object entries, .object derives⟩
  next rest same =>
    cases same
    have := length_skipBlanks_le rest
    rw [List.length_cons] at enough
    rw [skipWs_eq]
    apply (sound.items (skipBlanks rest) [] (by omega)).mono _ .array
    intro left derives
    obtain ⟨documents, derives⟩ := derives true
    exact ⟨.array documents, .array derives⟩
  next same =>
    split
    · split_ifs with start
      · exact parseNumber_sound start.symm _
      · exact .inl rfl
    · exact .inl rfl

theorem parseArray_sound {fuel : Nat} (sound : Sound nearest fuel) (input : Bytes) (acc : List (Json F))
    (enough : 2 * input.length + 2 ≤ fuel + 1) :
    Settles (fun rest => ∀ start, ∃ documents, Derives (dialect nearest) input (.items start documents) rest)
      (Stuck nearest input .items) (parseArray nearest (fuel + 1) input acc) := by
  by_cases closed : ∃ rest, input = endArray :: rest
  · obtain ⟨rest, rfl⟩ := closed
    rw [parseArray]
    exact fun start => ⟨[], .noItem (.inr trivial)⟩
  rw [parseArray_item fun rest same => closed ⟨rest, same⟩]
  apply (sound.value input (by omega)).bind .item
  intro value middle taken
  obtain ⟨item, derives⟩ := taken
  have := derives.length_lt
  simp only
  split
  next later separates =>
    have := length_of_skipBlanks separates
    have := length_skipBlanks_le later
    apply (sound.items (skipBlanks later) (value :: acc) (by omega)).mono _ (.nextItem derives separates)
    intro rest others start
    obtain ⟨documents, others⟩ := others false
    exact ⟨item :: documents, .nextItem derives separates others⟩
  next rest closes => exact fun start => ⟨[item], .lastItem derives closes⟩
  next => exact .inl rfl

theorem parseObject_sound {fuel : Nat} (sound : Sound nearest fuel) (input : Bytes) (acc : JsonObject F)
    (enough : 2 * input.length + 2 ≤ fuel + 1) :
    Settles (fun rest => ∀ start, ∃ entries, Derives (dialect nearest) input (.members start entries) rest)
      (Stuck nearest input .members) (parseObject nearest (fuel + 1) input acc) := by
  by_cases closed : ∃ rest, input = endObject :: rest
  · obtain ⟨rest, rfl⟩ := closed
    rw [parseObject]
    exact fun start => ⟨[], .noMember (.inr trivial)⟩
  by_cases named : ∃ rest, input = quotationMark :: rest
  · obtain ⟨rest, rfl⟩ := named
    rw [List.length_cons] at enough
    rw [parseObject_member]
    apply (parseString_sound nearest _ _ _ (Nat.lt_succ_self _)).bind .name
    intro key named quoted
    obtain ⟨pieces, quoted⟩ := quoted
    have := quoted.length_lt
    simp only
    split
    next valued separates =>
      have := length_of_skipBlanks separates
      have := length_skipBlanks_le valued
      apply (sound.value (skipBlanks valued) (by omega)).bind (.member quoted separates)
      intro value middle taken
      obtain ⟨item, derives⟩ := taken
      have := derives.length_lt
      simp only
      split
      next later continues =>
        have := length_of_skipBlanks continues
        have := length_skipBlanks_le later
        apply (sound.members (skipBlanks later) _ (by omega)).mono _ (.nextMember quoted separates derives continues)
        intro rest others start
        obtain ⟨entries, others⟩ := others false
        exact ⟨(pieces, item) :: entries, .nextMember quoted separates derives continues others⟩
      next rest closes => exact fun start => ⟨[(pieces, item)], .lastMember quoted separates derives closes⟩
      next => exact .inl rfl
    next => exact .inl rfl
  · rw [parseObject.eq_4 _ _ _ _ (fun rest same => closed ⟨rest, same⟩) fun rest same => named ⟨rest, same⟩]
    exact .inl rfl

theorem parse_sound (nearest : Decimal → Option F) (fuel : Nat) : Sound nearest fuel := by
  induction fuel with
  | zero => exact ⟨fun _ enough => by omega, fun _ _ enough => by omega, fun _ _ enough => by omega⟩
  | succ fuel sound => exact ⟨parseValue_sound sound, parseArray_sound sound, parseObject_sound sound⟩

end Accepted

end Json
end TelemetryFabric.ControlPlane
