import TelemetryFabric.ControlPlane.JsonConformance
import Mathlib.Data.List.Nodup

/-!
`encode!`: the text of a response. Its strings escape the quotation mark, the backslash, line breaks
and tabs and leave the other controls as they are, so what it writes is standard JSON exactly where
no string has any of them.
-/

namespace TelemetryFabric.ControlPlane
open Library Library.JsonText

/-- What `encode_value` has clauses for. The entries of a map come as it is enumerated. -/
inductive Encodable (F : Type) where
  | nil
  | boolean (value : Bool)
  | integer (value : Int)
  | float (value : F)
  | string (text : String)
  | atom (name : String)
  | list (items : List (Encodable F))
  | map (entries : List (MapKey × Encodable F))

namespace Json

def escape (value : String) : String :=
  replaceChar '\t' "\\t" (replaceChar '\r' "\\r" (replaceChar '\n' "\\n"
    (replaceChar '"' "\\\"" (replaceChar '\\' "\\\\" value))))

def encodeString (value : String) : Bytes := 0x22 :: (utf8 (escape value) ++ [0x22])

section Encode

variable {F : Type} (showFloat : F → String)

mutual

def encodeValue : Encodable F → Bytes
  | .nil => utf8 "null"
  | .boolean true => utf8 "true"
  | .boolean false => utf8 "false"
  | .integer value => utf8 (String.ofList (decimalInt value))
  | .float value => utf8 (showFloat value)
  | .string text => encodeString text
  | .atom name => encodeString name
  | .list items => 0x5b :: ([0x2c].intercalate (encodeItems items) ++ [0x5d])
  | .map entries =>
      -- sorted by the texts of the keys; entries with one text stay in their order
      let sorted := (encodeEntries entries).mergeSort fun first second => decide (first.1 ≤ second.1)
      0x7b :: ([0x2c].intercalate (sorted.map Prod.snd) ++ [0x7d])

def encodeItems : List (Encodable F) → List Bytes
  | [] => []
  | item :: rest => encodeValue item :: encodeItems rest

def encodeEntries : List (MapKey × Encodable F) → List (String × Bytes)
  | [] => []
  | (key, item) :: rest => (key.text, encodeString key.text ++ 0x3a :: encodeValue item) :: encodeEntries rest

end

def encode (value : Encodable F) : Bytes := encodeValue showFloat value

end Encode

/-! ### Strings -/

/-- How a character is written. -/
def pieceOf (c : Char) : Piece :=
  if c = '\\' then .escape .backslash
  else if c = '"' then .escape .quotationMark
  else if c = '\n' then .escape .lineFeed
  else if c = '\r' then .escape .carriageReturn
  else if c = '\t' then .escape .tab
  else .plain c

def textPieces (text : String) : List Piece := text.toList.map pieceOf

theorem utf8_ofList (characters : List Char) : utf8 (String.ofList characters) = characters.flatMap String.utf8EncodeChar := by
  induction characters with
  | nil => rfl
  | cons c rest ih => rw [utf8_ofList_cons, ih, List.flatMap_cons]

/-- The characters that are escaped, each by two. -/
def escapedChar (c : Char) : List Char :=
  if c = '\\' then ['\\', '\\']
  else if c = '"' then ['\\', '"']
  else if c = '\n' then ['\\', 'n']
  else if c = '\r' then ['\\', 'r']
  else if c = '\t' then ['\\', 't']
  else [c]

/-- The five replacements touch every character once. -/
theorem toList_escape (value : String) : (escape value).toList = value.toList.flatMap escapedChar := by
  simp only [escape, replaceChar, String.toList_ofList, List.flatMap_assoc]
  congr 1
  funext c
  unfold escapedChar
  split_ifs with backslash quote newline carriage tab
  · subst backslash
    rfl
  · subst quote
    rfl
  · subst newline
    rfl
  · subst carriage
    rfl
  · subst tab
    rfl
  · simp [quote, newline, carriage, tab]

theorem utf8_escapedChar (c : Char) : (escapedChar c).flatMap String.utf8EncodeChar = (pieceOf c).bytes := by
  unfold escapedChar pieceOf
  split_ifs with backslash quote newline carriage tab
  · rfl
  · rfl
  · rfl
  · rfl
  · rfl
  · simp [Piece.bytes]

theorem utf8_escape (value : String) : utf8 (escape value) = (textPieces value).flatMap Piece.bytes := by
  rw [← String.ofList_toList (s := escape value), toList_escape, utf8_ofList, List.flatMap_assoc, textPieces, List.flatMap_map]
  congr 1
  funext c
  exact utf8_escapedChar c

theorem encodeString_eq (value : String) : encodeString value = quoted (textPieces value) := by
  rw [encodeString, utf8_escape]
  rfl

/-- A piece stands for the character it is written for, to both sides. -/
theorem pieceChar_pieceOf (c : Char) : pieceChar (pieceOf c) = some c := by
  unfold pieceOf
  split_ifs with backslash quote newline carriage tab
  · rw [backslash]; rfl
  · rw [quote]; rfl
  · rw [newline]; rfl
  · rw [carriage]; rfl
  · rw [tab]; rfl
  · rfl

theorem pieceText_textPieces (text : String) : pieceText (textPieces text) = some text := by
  have each : ∀ characters : List Char, (characters.map pieceOf).mapM pieceChar = some characters := by
    intro characters
    induction characters with
    | nil => rfl
    | cons c rest ih =>
      rw [List.map_cons, mapM_pieceChar (pieceChar_pieceOf c), ih]
      rfl
  rw [pieceText, textPieces, each, Option.map_some, String.ofList_toList]

theorem characters_pieceOf (c : Char) (rest : List Piece) :
    characters (pieceOf c :: rest) = (characters rest).map (c :: ·) := by
  unfold pieceOf
  split_ifs with backslash quote newline carriage tab
  · rw [backslash]; rfl
  · rw [quote]; rfl
  · rw [newline]; rfl
  · rw [carriage]; rfl
  · rw [tab]; rfl
  · rfl

theorem characters_textPieces (text : String) : characters (textPieces text) = some text.toList := by
  unfold textPieces
  induction text.toList with
  | nil => rfl
  | cons c rest ih =>
    rw [List.map_cons, characters_pieceOf, ih]
    rfl

/-- The parser of requests takes every text. -/
theorem fits_textPieces {F : Type} (nearest : Decimal → Option F) (text : String) :
    FitsPieces (dialect nearest) (textPieces text) := by
  intro piece member later
  obtain ⟨c, -, rfl⟩ := List.mem_map.mp member
  unfold pieceOf
  split_ifs with backslash quote newline carriage tab
  · trivial
  · trivial
  · trivial
  · trivial
  · trivial
  · exact ⟨quote, fun same => absurd same backslash⟩

/-- The standard asks for escapes of all controls. -/
def isClean (c : Char) : Bool := 0x20 ≤ c.toNat || c = '\n' || c = '\r' || c = '\t'

def isCleanText (text : String) : Bool := text.toList.all isClean

theorem accepts_rfc_iff (c : Char) (later : Bytes) : rfc.Accepts (pieceOf c) later ↔ isClean c = true := by
  simp only [isClean, Bool.or_eq_true, decide_eq_true_eq]
  unfold pieceOf
  split_ifs with backslash quote newline carriage tab
  · exact iff_of_true trivial (.inl (.inl (.inl (by rw [backslash]; decide))))
  · exact iff_of_true trivial (.inl (.inl (.inl (by rw [quote]; decide))))
  · exact iff_of_true trivial (.inl (.inl (.inr newline)))
  · exact iff_of_true trivial (.inl (.inr carriage))
  · exact iff_of_true trivial (.inr tab)
  · constructor
    · exact fun plain => .inl (.inl (.inl plain.1))
    · intro clean
      have high : 0x20 ≤ c.toNat := ((clean.resolve_right tab).resolve_right carriage).resolve_right newline
      exact ⟨high, quote, backslash⟩

theorem fits_rfc_iff (text : String) : FitsPieces rfc (textPieces text) ↔ isCleanText text = true := by
  unfold FitsPieces textPieces isCleanText
  rw [List.all_eq_true]
  constructor
  · exact fun fits c member => (accepts_rfc_iff c []).mp (fits _ (List.mem_map_of_mem member) [])
  · intro clean piece member later
    obtain ⟨c, inside, rfl⟩ := List.mem_map.mp member
    exact (accepts_rfc_iff c later).mpr (clean c inside)

/-! ### Values -/

section Values

section Encodable

variable {F : Type} (enumerate : List (MapKey × Encodable F) → List (MapKey × Encodable F))

mutual

/-- A value as the runtime has it: its maps are enumerated in some order. -/
def encodable : Json F → Encodable F
  | .null => .nil
  | .boolean value => .boolean value
  | .integer value => .integer value
  | .float value => .float value
  | .string text => .string text
  | .array items => .list (encodableItems items)
  | .object fields => .map (enumerate (encodableFields fields))

def encodableItems : List (Json F) → List (Encodable F)
  | [] => []
  | item :: rest => encodable item :: encodableItems rest

def encodableFields : List (String × Json F) → List (MapKey × Encodable F)
  | [] => []
  | (key, item) :: rest => (.string key, encodable item) :: encodableFields rest

end

end Encodable

variable (enumerate : List (MapKey × Encodable Empty) → List (MapKey × Encodable Empty))

mutual

/-- The keys of every object are different, and stand in order. -/
def isMap : Json Empty → Prop
  | .array items => areMaps items
  | .object fields => (fields.map Prod.fst).Pairwise (· < ·) ∧ fieldsAreMaps fields
  | _ => True

def areMaps : List (Json Empty) → Prop
  | [] => True
  | item :: rest => isMap item ∧ areMaps rest

def fieldsAreMaps : List (String × Json Empty) → Prop
  | [] => True
  | (_, item) :: rest => isMap item ∧ fieldsAreMaps rest

end

mutual

/-- Whether no string and no key of a value holds a control but tabs and line breaks. -/
def isCleanValue : Json Empty → Bool
  | .string text => isCleanText text
  | .array items => areClean items
  | .object fields => fieldsAreClean fields
  | _ => true

def areClean : List (Json Empty) → Bool
  | [] => true
  | item :: rest => isCleanValue item && areClean rest

def fieldsAreClean : List (String × Json Empty) → Bool
  | [] => true
  | (key, item) :: rest => isCleanText key && isCleanValue item && fieldsAreClean rest

end

mutual

/-- The document that is written for a value. -/
def documentOf : Json Empty → Document
  | .null => .null
  | .boolean value => .boolean value
  | .integer value => .number (integerToken value)
  | .float value => nomatch value
  | .string text => .string (textPieces text)
  | .array items => .array (documentsOf items)
  | .object fields => .object (membersOf fields)

def documentsOf : List (Json Empty) → List Document
  | [] => []
  | item :: rest => documentOf item :: documentsOf rest

def membersOf : List (String × Json Empty) → List (List Piece × Document)
  | [] => []
  | (key, item) :: rest => (textPieces key, documentOf item) :: membersOf rest

end

/-- The entries of a map as they are written, in the order of their keys. -/
def encodedFields (showFloat : Empty → String) (fields : List (String × Json Empty)) : List (String × Bytes) :=
  encodeEntries showFloat (encodableFields enumerate fields)

theorem encodeEntries_eq (showFloat : Empty → String) (entries : List (MapKey × Encodable Empty)) :
    encodeEntries showFloat entries = entries.map fun entry =>
      (entry.1.text, encodeString entry.1.text ++ 0x3a :: encodeValue showFloat entry.2) := by
  induction entries with
  | nil => rfl
  | cons entry rest ih => rw [encodeEntries, ih, List.map_cons]

theorem keys_encodedFields (showFloat : Empty → String) (fields : List (String × Json Empty)) :
    (encodedFields enumerate showFloat fields).map Prod.fst = fields.map Prod.fst := by
  induction fields with
  | nil => rfl
  | cons field rest ih =>
    show field.1 :: (encodedFields enumerate showFloat rest).map Prod.fst = _
    rw [ih, List.map_cons]

/-- The order in which a map is enumerated does not show. -/
theorem sorted_entries (each : ∀ entries, (enumerate entries).Perm entries) (showFloat : Empty → String)
    {fields : List (String × Json Empty)} (ordered : (fields.map Prod.fst).Pairwise (· < ·)) :
    (encodeEntries showFloat (enumerate (encodableFields enumerate fields))).mergeSort
        (fun first second => decide (first.1 ≤ second.1)) = encodedFields enumerate showFloat fields := by
  rw [← keys_encodedFields enumerate showFloat, List.pairwise_map] at ordered
  have same : (encodeEntries showFloat (enumerate (encodableFields enumerate fields))).Perm
      (encodedFields enumerate showFloat fields) := by
    rw [encodedFields, encodeEntries_eq, encodeEntries_eq]
    exact (each _).map _
  have transitive (first second third : String × Bytes) (before : decide (first.1 ≤ second.1) = true)
      (after : decide (second.1 ≤ third.1) = true) : decide (first.1 ≤ third.1) = true :=
    decide_eq_true ((of_decide_eq_true before).trans (of_decide_eq_true after))
  have total (first second : String × Bytes) : (decide (first.1 ≤ second.1) || decide (second.1 ≤ first.1)) = true := by
    simpa using le_total first.1 second.1
  have sorted := List.pairwise_mergeSort transitive total
    (encodeEntries showFloat (enumerate (encodableFields enumerate fields)))
  apply List.Perm.eq_of_pairwise _ sorted (ordered.imp fun before => decide_eq_true before.le)
    ((List.mergeSort_perm _ _).trans same)
  intro first second inside also before after
  have distinct : ((encodedFields enumerate showFloat fields).map Prod.fst).Nodup :=
    (List.pairwise_map.mpr (ordered.imp fun before => before.ne))
  have inner : first ∈ encodedFields enumerate showFloat fields := same.mem_iff.mp (List.mem_mergeSort.mp inside)
  exact List.inj_on_of_nodup_map distinct inner also ((of_decide_eq_true before).antisymm (of_decide_eq_true after))

mutual

/-- `encode!` writes the document of the value. -/
theorem encodeValue_eq (each : ∀ entries, (enumerate entries).Perm entries) (showFloat : Empty → String)
    (value : Json Empty) (maps : isMap value) :
    encodeValue showFloat (encodable enumerate value) = (documentOf value).written := by
  match value with
  | .null => rfl
  | .boolean true => rfl
  | .boolean false => rfl
  | .integer value => rfl
  | .float value => nomatch value
  | .string text => exact encodeString_eq text
  | .array items =>
    simp only [encodable, encodeValue, documentOf, Document.written, encodeItems_eq each showFloat items maps]
  | .object fields =>
    simp only [encodable, encodeValue, documentOf, Document.written, sorted_entries enumerate each showFloat maps.1,
      encodedFields_eq each showFloat fields maps.2]

theorem encodeItems_eq (each : ∀ entries, (enumerate entries).Perm entries) (showFloat : Empty → String)
    (items : List (Json Empty)) (maps : areMaps items) :
    encodeItems showFloat (encodableItems enumerate items) = writtenItems (documentsOf items) := by
  match items with
  | [] => rfl
  | item :: rest =>
    simp only [encodableItems, encodeItems, documentsOf, writtenItems, encodeValue_eq each showFloat item maps.1,
      encodeItems_eq each showFloat rest maps.2]

theorem encodedFields_eq (each : ∀ entries, (enumerate entries).Perm entries) (showFloat : Empty → String)
    (fields : List (String × Json Empty)) (maps : fieldsAreMaps fields) :
    (encodedFields enumerate showFloat fields).map Prod.snd = writtenMembers (membersOf fields) := by
  match fields with
  | [] => rfl
  | (key, item) :: rest =>
    have later := encodedFields_eq each showFloat rest maps.2
    rw [encodedFields] at later ⊢
    simp only [encodableFields, encodeEntries, List.map_cons, MapKey.text, encodeString_eq, membersOf, writtenMembers,
      encodeValue_eq each showFloat item maps.1, later]

end

mutual

/-- The parser of requests would take it. -/
theorem documentOf_fits {F : Type} (nearest : Decimal → Option F) (value : Json Empty) :
    (documentOf value).Fits (dialect nearest) := by
  match value with
  | .null => trivial
  | .boolean _ => trivial
  | .integer value =>
    obtain ⟨number, read, integer, -, -⟩ := readNumber_integerToken value
    constructor
    · simp [numberValue, read, integer]
    · intro other member
      cases read.symm.trans member
      exact .inl integer
  | .float value => nomatch value
  | .string text => exact fits_textPieces nearest text
  | .array items => exact documentsOf_fits nearest items
  | .object fields => exact membersOf_fits nearest fields

theorem documentsOf_fits {F : Type} (nearest : Decimal → Option F) (items : List (Json Empty)) :
    FitsItems (dialect nearest) (documentsOf items) := by
  match items with
  | [] => trivial
  | item :: rest => exact ⟨documentOf_fits nearest item, documentsOf_fits nearest rest⟩

theorem membersOf_fits {F : Type} (nearest : Decimal → Option F) (fields : List (String × Json Empty)) :
    FitsMembers (dialect nearest) (membersOf fields) := by
  match fields with
  | [] => trivial
  | (key, item) :: rest =>
    exact ⟨fits_textPieces nearest key, documentOf_fits nearest item, membersOf_fits nearest rest⟩

end

mutual

theorem documentOf_fits_rfc_iff (value : Json Empty) : (documentOf value).Fits rfc ↔ isCleanValue value = true := by
  match value with
  | .null => exact iff_of_true trivial rfl
  | .boolean _ => exact iff_of_true trivial rfl
  | .integer value =>
    obtain ⟨number, read, -, -, unpadded⟩ := readNumber_integerToken value
    exact iff_of_true ⟨number, read, unpadded⟩ rfl
  | .float value => nomatch value
  | .string text => exact fits_rfc_iff text
  | .array items => exact documentsOf_fits_rfc_iff items
  | .object fields => exact membersOf_fits_rfc_iff fields

theorem documentsOf_fits_rfc_iff (items : List (Json Empty)) : FitsItems rfc (documentsOf items) ↔ areClean items = true := by
  match items with
  | [] => exact iff_of_true trivial rfl
  | item :: rest =>
    rw [areClean, Bool.and_eq_true, ← documentOf_fits_rfc_iff item, ← documentsOf_fits_rfc_iff rest]
    rfl

theorem membersOf_fits_rfc_iff (fields : List (String × Json Empty)) :
    FitsMembers rfc (membersOf fields) ↔ fieldsAreClean fields = true := by
  match fields with
  | [] => exact iff_of_true trivial rfl
  | (key, item) :: rest =>
    rw [fieldsAreClean, Bool.and_eq_true, Bool.and_eq_true, ← fits_rfc_iff key, ← documentOf_fits_rfc_iff item,
      ← membersOf_fits_rfc_iff rest, and_assoc]
    rfl

end

/-- Fields in the order of their keys are what is made of them one by one. -/
theorem lastOf_ordered {F : Type} (fields earlier : List (String × Json F))
    (ordered : ((earlier ++ fields).map Prod.fst).Pairwise (· < ·)) : lastOf fields earlier = earlier ++ fields := by
  induction fields generalizing earlier with
  | nil => exact (List.append_nil earlier).symm
  | cons field rest ih =>
    have below : ∀ entry ∈ earlier, entry.1 < field.1 := by
      rw [List.map_append, List.pairwise_append] at ordered
      exact fun entry member => ordered.2.2 _ (List.mem_map_of_mem member) _ (by simp)
    show lastOf rest (OrderedMap.place field.1 field.2 earlier) = _
    rw [OrderedMap.place_after _ _ _ below, ih _ (by rwa [List.append_assoc]), List.append_assoc]
    rfl

mutual

/-- The document of a value denotes it. -/
theorem denoted_documentOf (nearest : Decimal → Option Empty) (value : Json Empty) (maps : isMap value) :
    denoted nearest (documentOf value) = some value := by
  match value with
  | .null => rfl
  | .boolean _ => rfl
  | .integer value =>
    obtain ⟨number, read, integer, same, -⟩ := readNumber_integerToken value
    simp [documentOf, denoted, valueOf, numberValue, read, integer, same]
  | .float value => nomatch value
  | .string text => simp [documentOf, denoted, valueOf, characters_textPieces]
  | .array items =>
    have inner := denoted_documentsOf nearest items maps
    simp [documentOf, denoted, valueOf, inner]
  | .object fields =>
    have inner := denoted_membersOf nearest fields maps.2
    simp [documentOf, denoted, valueOf, inner, lastOf_ordered fields [] maps.1]

theorem denoted_documentsOf (nearest : Decimal → Option Empty) (items : List (Json Empty)) (maps : areMaps items) :
    valuesOf nearest (fun pieces => (characters pieces).map String.ofList) (documentsOf items) = some items := by
  match items with
  | [] => rfl
  | item :: rest =>
    have first := denoted_documentOf nearest item maps.1
    rw [denoted] at first
    simp [documentsOf, valuesOf, first, denoted_documentsOf nearest rest maps.2]

theorem denoted_membersOf (nearest : Decimal → Option Empty) (fields : List (String × Json Empty))
    (maps : fieldsAreMaps fields) :
    fieldsOf nearest (fun pieces => (characters pieces).map String.ofList) (membersOf fields) = some fields := by
  match fields with
  | [] => rfl
  | (key, item) :: rest =>
    have first := denoted_documentOf nearest item maps.1
    rw [denoted] at first
    simp [membersOf, fieldsOf, characters_textPieces, first, denoted_membersOf nearest rest maps.2]

end

/-- `encode!` gives a standard text that denotes the value. -/
def EncodesStandard (value : Json Empty) : Prop :=
  ∃ document, IsText rfc (encode Empty.elim (encodable enumerate value)) document ∧
    denoted (fun _ => none) document = some value

theorem encodesStandard_iff_fits (each : ∀ entries, (enumerate entries).Perm entries) (value : Json Empty)
    (maps : isMap value) : EncodesStandard enumerate value ↔ (documentOf value).Fits rfc := by
  have written : encode Empty.elim (encodable enumerate value) = (documentOf value).written :=
    encodeValue_eq enumerate each Empty.elim value maps
  have fits := documentOf_fits (fun _ => (none : Option Empty)) value
  unfold EncodesStandard
  rw [written]
  constructor
  · rintro ⟨document, text, -⟩
    exact ((isText_written_iff rfc_uniform fits).mp text).2
  · intro standard
    exact ⟨documentOf value, isText_written standard, denoted_documentOf _ value maps⟩

/-- It does exactly for the values without controls in their strings and keys. -/
theorem encodesStandard_iff (each : ∀ entries, (enumerate entries).Perm entries) (value : Json Empty) (maps : isMap value) :
    EncodesStandard enumerate value ↔ isCleanValue value = true := by
  rw [encodesStandard_iff_fits enumerate each value maps, documentOf_fits_rfc_iff]

end Values

/-- A reason with a quotation mark and a line break, in a map that is enumerated backwards. -/
theorem encodesStandard_reason :
    EncodesStandard List.reverse (.object [("reason", .string "drain \"a\"\n"), ("version", .integer 3)]) ↔
      isCleanValue (.object [("reason", .string "drain \"a\"\n"), ("version", .integer 3)]) = true :=
  encodesStandard_iff List.reverse List.reverse_perm _ ⟨by decide +kernel, trivial, trivial, trivial⟩

/-- A control in a string is left as it is, which no standard text has. -/
theorem control_left_raw : ¬EncodesStandard id (.string "\x01") := by
  rw [encodesStandard_iff_fits id List.Perm.refl (.string "\x01") trivial]
  intro fits
  have clean := (fits_rfc_iff "\x01").mp fits
  exact absurd clean (by decide)

end Json
end TelemetryFabric.ControlPlane
