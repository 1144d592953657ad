import TelemetryFabric.ControlPlane.JsonAccepted

/-!
`decode!` as a parser of standard JSON: on the texts of its dialect it returns what they stand for
there, and where the standard has them too the two readings are one.
-/

namespace TelemetryFabric.ControlPlane
open Library Library.JsonText

namespace Json

variable {F : Type} {nearest : Decimal → Option F}

/-! ### Whole inputs -/

theorem decode_of_isText {input : Bytes} {document : Document} (text : IsText (dialect nearest) input document) :
    ∃ value, valueOf nearest pieceText document = some value ∧ decode nearest input = .ok value := by
  obtain ⟨rest, derives, ended⟩ := text
  obtain ⟨value, read, parses⟩ := parsed_of_derives derives
  refine ⟨value, read, ?_⟩
  have bound := length_skipBlanks_le input
  unfold decode
  rw [skipWs_eq, parses _ (by omega)]
  simp only [bind, Except.bind, skipWs_eq, ended]
  rfl

theorem isText_of_decode {input : Bytes} {value : Json F} (decoded : decode nearest input = .ok value) :
    ∃ document, IsText (dialect nearest) input document := by
  have bound := length_skipBlanks_le input
  have sound := (parse_sound nearest (2 * input.length + 1)).value (skipBlanks input) (by omega)
  unfold decode at decoded
  rw [skipWs_eq] at decoded
  cases parsed : parseValue nearest (2 * input.length + 1) (skipBlanks input) with
  | error failure =>
    rw [parsed] at decoded
    cases decoded
  | ok found =>
    rw [parsed] at decoded sound
    obtain ⟨document, derives⟩ := sound
    simp only [bind, Except.bind, skipWs_eq] at decoded
    split at decoded
    next ended => exact ⟨document, found.2, derives, ended⟩
    next => cases decoded

theorem decode_crashes_iff {input : Bytes} :
    Crashes (decode nearest input) ↔ Stuck nearest (skipBlanks input) .value := by
  have bound := length_skipBlanks_le input
  constructor
  · rintro ⟨failure, failed, other⟩
    have sound := (parse_sound nearest (2 * input.length + 1)).value (skipBlanks input) (by omega)
    unfold decode at failed
    rw [skipWs_eq] at failed
    cases parsed : parseValue nearest (2 * input.length + 1) (skipBlanks input) with
    | error reason =>
      rw [parsed] at failed sound
      cases failed
      exact sound.resolve_left (by simp [other])
    | ok found =>
      rw [parsed] at failed
      simp only [bind, Except.bind] at failed
      split at failed
      · cases failed
      · cases failed
        cases other
  · intro stuck
    have crashes := crashesIn_of_stuck stuck (2 * input.length + 1) (by omega)
    unfold decode
    rw [skipWs_eq]
    exact crashes.bind _

/-! ### One meaning -/

theorem hexValue_sign {byte value : UInt8} (digit : hexValue byte = some value) : byte ≠ 0x2b ∧ byte ≠ 0x2d := by
  constructor
  · rintro rfl
    cases digit
  · rintro rfl
    cases digit

/-- Four hexadecimal digits are the same number to `Integer.parse`. -/
theorem codepoint_of_codeUnit {first second third fourth : UInt8} {unit : Nat}
    (read : codeUnit first second third fourth = some unit) : codepoint first second third fourth = some (unit : Int) := by
  unfold codeUnit at read
  obtain ⟨a, readA, read⟩ := Option.bind_eq_some_iff.mp read
  obtain ⟨b, readB, read⟩ := Option.bind_eq_some_iff.mp read
  obtain ⟨c, readC, read⟩ := Option.bind_eq_some_iff.mp read
  obtain ⟨d, readD, read⟩ := Option.bind_eq_some_iff.mp read
  cases read
  obtain ⟨plus, minus⟩ := hexValue_sign readA
  have unsigned : splitSign [first, second, third, fourth] = ([], [first, second, third, fourth]) :=
    splitSign.eq_3 _ (fun _ same => plus (List.cons.inj same).1) fun _ same => minus (List.cons.inj same).1
  simp [codepoint, integerParse, unsigned, readA, readB, readC, readD]
  omega

theorem characters_unicode {first second third fourth : UInt8} {unit : Nat} (read : codeUnit first second third fourth = some unit)
    (high : isHighSurrogate unit = false) (low : isLowSurrogate unit = false) (rest : List Piece) :
    characters (.unicode first second third fourth :: rest) = (characters rest).map (Char.ofNat unit :: ·) := by
  rcases rest with _ | ⟨_ | _ | _, rest⟩ <;> simp [characters, read, high, low]

theorem not_surrogate {unit : Nat} (valid : unit.isValidChar) : isHighSurrogate unit = false ∧ isLowSurrogate unit = false := by
  simp only [isHighSurrogate, isLowSurrogate, Bool.and_eq_false_iff, decide_eq_false_iff_not]
  simp only [Nat.isValidChar] at valid
  omega

theorem mapM_pieceChar {piece : Piece} {c : Char} (stands : pieceChar piece = some c) (pieces : List Piece) :
    (piece :: pieces).mapM pieceChar = (pieces.mapM pieceChar).map (c :: ·) := by
  rw [List.mapM_cons, stands]
  cases pieces.mapM pieceChar <;> rfl

/-- What both dialects have in strings means the same in them. -/
theorem pieceText_standard {input rest : Bytes} {pieces : List Piece}
    (quoted : Quoted (rfc.meet (dialect nearest)) input pieces rest) : pieces.mapM pieceChar = characters pieces := by
  induction quoted with
  | close => rfl
  | @piece piece later rest pieces accepts others ih =>
    cases piece with
    | plain c => rw [mapM_pieceChar rfl, ih, characters]
    | escape letter => rw [mapM_pieceChar rfl, ih, characters]
    | unicode first second third fourth =>
      obtain ⟨standard, known⟩ := accepts
      obtain ⟨unit, read⟩ := Option.isSome_iff_exists.mp standard
      obtain ⟨c, found⟩ := Option.isSome_iff_exists.mp known
      have char : utf8Char unit = some c := by
        rw [codepoint_of_codeUnit read] at found
        exact found
      unfold utf8Char at char
      split_ifs at char with valid
      cases char
      obtain ⟨high, low⟩ := not_surrogate valid.2
      rw [characters_unicode read high low,
        mapM_pieceChar (show pieceChar (.unicode first second third fourth) = _ from found), ih]
      rfl

/-- A part has one meaning. -/
def Agrees (nearest : Decimal → Option F) : Part → Prop
  | .value document => denoted nearest document = valueOf nearest pieceText document
  | .items _ documents =>
      valuesOf nearest (fun pieces => (characters pieces).map String.ofList) documents = valuesOf nearest pieceText documents
  | .members _ entries =>
      fieldsOf nearest (fun pieces => (characters pieces).map String.ofList) entries = fieldsOf nearest pieceText entries

theorem agrees_of_derives {input rest : Bytes} {part : Part} (derives : Derives (rfc.meet (dialect nearest)) input part rest) :
    Agrees nearest part := by
  induction derives with
  | null => rfl
  | yes => rfl
  | no => rfl
  | number => rfl
  | string quoted => simp only [Agrees, denoted, valueOf, pieceText, pieceText_standard quoted]
  | array inner ih =>
    simp only [Agrees, denoted, valueOf] at ih ⊢
    rw [ih]
  | object inner ih =>
    simp only [Agrees, denoted, valueOf] at ih ⊢
    rw [ih]
  | noItem => rfl
  | lastItem value closes ih =>
    simp only [Agrees, denoted, valuesOf] at ih ⊢
    rw [ih]
  | nextItem value separates others ih ihRest =>
    simp only [Agrees, denoted, valuesOf] at ih ihRest ⊢
    rw [ih, ihRest]
  | noMember => rfl
  | lastMember key separates value closes ih =>
    simp only [Agrees, denoted, fieldsOf, pieceText, pieceText_standard key] at ih ⊢
    rw [ih]
  | nextMember key separates value continues others ih ihRest =>
    simp only [Agrees, denoted, fieldsOf, pieceText, pieceText_standard key] at ih ihRest ⊢
    rw [ih, ihRest]

/-! ### The standard -/

/-- `decode!` returns what a standard text denotes, and raises an `ArgumentError` for any other
input. -/
def ParsesStandard (nearest : Decimal → Option F) (input : Bytes) : Prop :=
  (∀ document, IsText rfc input document →
      ∃ value, denoted nearest document = some value ∧ decode nearest input = .ok value) ∧
    ((¬∃ document, IsText rfc input document) →
      ∃ failure, decode nearest input = .error failure ∧ failure.isArgumentError = true)

/-- It does for the texts that its dialect shares with the standard, and for the inputs that neither
has and that are no malformed bytes in a string. -/
theorem parsesStandard_iff (nearest : Decimal → Option F) (input : Bytes) :
    ParsesStandard nearest input ↔
      (∃ document, IsText (rfc.meet (dialect nearest)) input document) ∨
        ((¬∃ document, IsText rfc input document) ∧ (¬∃ document, IsText (dialect nearest) input document) ∧
          ¬Stuck nearest (skipBlanks input) .value) := by
  constructor
  · rintro ⟨standard, other⟩
    by_cases text : ∃ document, IsText rfc input document
    · obtain ⟨document, text⟩ := text
      obtain ⟨value, -, decoded⟩ := standard document text
      obtain ⟨second, also⟩ := isText_of_decode decoded
      exact .inl ⟨document, (text.meet also).2⟩
    · obtain ⟨failure, failed, argument⟩ := other text
      refine .inr ⟨text, ?_, ?_⟩
      · rintro ⟨document, text⟩
        obtain ⟨value, -, decoded⟩ := decode_of_isText text
        rw [decoded] at failed
        cases failed
      · intro stuck
        obtain ⟨reason, crashed, other⟩ := decode_crashes_iff.mpr stuck
        rw [crashed] at failed
        cases failed
        rw [argument] at other
        cases other
  · rintro (⟨document, both⟩ | ⟨other, untaken, unstuck⟩)
    · have standard := both.within (Dialect.meet_within_left _ _)
      obtain ⟨value, read, decoded⟩ := decode_of_isText (both.within (Dialect.meet_within_right _ _))
      refine ⟨fun second text => ?_, fun other => absurd ⟨document, standard⟩ other⟩
      obtain rfl := standard.unique text
      obtain ⟨rest, derives, -⟩ := both
      exact ⟨value, (agrees_of_derives derives).trans read, decoded⟩
    · refine ⟨fun document text => absurd ⟨document, text⟩ other, fun _ => ?_⟩
      cases decoded : decode nearest input with
      | ok value => exact absurd (isText_of_decode decoded) untaken
      | error failure =>
        refine ⟨failure, rfl, ?_⟩
        by_contra crash
        exact unstuck (decode_crashes_iff.mp ⟨failure, decoded, by simpa using crash⟩)

/-- The escapes of U+1F600, a pair of surrogates. -/
def smileyPieces : List Piece := [.unicode 0x64 0x38 0x33 0x64, .unicode 0x64 0x65 0x30 0x30]

/-- A string of one character beyond the first plane, written in escapes, is refused. -/
theorem smiley_refused : ¬ParsesStandard (fun _ => some ()) (utf8 "\"\\ud83d\\ude00\"") := by
  rintro ⟨standard, -⟩
  have fits : (Document.string smileyPieces).Fits rfc := by
    intro piece member later
    simp only [smileyPieces, List.mem_cons, List.not_mem_nil, or_false] at member
    rcases member with rfl | rfl
    · show (codeUnit 0x64 0x38 0x33 0x64).isSome = true
      decide
    · show (codeUnit 0x64 0x65 0x30 0x30).isSome = true
      decide
  have bytes : utf8 "\"\\ud83d\\ude00\"" = (Document.string smileyPieces).written := by decide +kernel
  obtain ⟨value, -, decoded⟩ := standard _ (bytes ▸ isText_written fits)
  have failed : (decode (fun _ => some ()) (utf8 "\"\\ud83d\\ude00\"")).isOk = false := by decide +kernel
  rw [decoded] at failed
  cases failed

end Json
end TelemetryFabric.ControlPlane
