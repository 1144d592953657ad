import TelemetryFabric.Library.Numerals

/-!
A part of YAML 1.2: block mappings with plain or double-quoted keys, and on the line of a key a
double-quoted scalar, a flow sequence or a plain scalar. Plain scalars get their type from the
core schema. Anchors, tags, block scalars, single quotes and scalars over several lines are not
read.
-/

namespace TelemetryFabric.Library

/-- A float is kept as it is written. -/
inductive Yaml where
  | null
  | bool (value : Bool)
  | int (value : Int)
  | float (text : String)
  | string (text : String)
  | sequence (items : List Yaml)
  | mapping (entries : List (Yaml × Yaml))

namespace Yaml

/-! ### Plain scalars -/

def isBlankChar (c : Char) : Bool := c = ' ' || c = '\t'

/-- Characters that a quoted scalar on one line may hold. -/
def isJson (c : Char) : Bool := c = '\t' || decide (' '.toNat ≤ c.toNat)

/-- Characters that a plain scalar may hold: no control characters and no byte order mark. -/
def isPrintable (c : Char) : Bool :=
  isJson c && !(decide (0x7F ≤ c.toNat) && decide (c.toNat ≤ 0x9F) && decide (c.toNat ≠ 0x85)) &&
    !([0xFEFF, 0xFFFE, 0xFFFF].contains c.toNat)

/-- The last two are the single quote and the grave accent. -/
def indicators : List Char :=
  ['-', '?', ':', ',', '[', ']', '{', '}', '#', '&', '*', '!', '|', '>', '"', '%', '@', Char.ofNat 39, Char.ofNat 96]

/-- A plain scalar does not start like anything else; `-`, `?` and `:` may stand before a solid character. -/
def startsPlain : List Char → Bool
  | [] => false
  | [c] => !indicators.contains c && !isBlankChar c
  | c :: next :: _ =>
      (!indicators.contains c || ((c = '-' || c = '?' || c = ':') && !isBlankChar next)) && !isBlankChar c

def allDigits (text : List Char) : Bool := !text.isEmpty && text.all Char.isDigit

def withoutSign : List Char → List Char
  | '-' :: rest => rest
  | '+' :: rest => rest
  | text => text

/-- Digits with at most one point among them. -/
def isMantissa (text : List Char) : Bool :=
  text.all (fun c => c.isDigit || c = '.') && decide (text.count '.' ≤ 1) && text.any Char.isDigit

def isFloat (text : List Char) : Bool :=
  let magnitude := withoutSign text
  let mantissa := magnitude.takeWhile fun c => c ≠ 'e' && c ≠ 'E'
  let exponent := magnitude.drop mantissa.length
  (isMantissa mantissa && (exponent.isEmpty || allDigits (withoutSign exponent.tail))) ||
    [".inf".toList, ".Inf".toList, ".INF".toList].contains magnitude ||
    [".nan".toList, ".NaN".toList, ".NAN".toList].contains text

def isRadix (start : Char) (digits : String) : List Char → Bool
  | '0' :: c :: rest => c = start && !rest.isEmpty && rest.all fun digit => digits.toList.contains digit
  | _ => false

def digitIn (digits : String) (c : Char) : Nat := digits.toList.idxOf (c.toLower)

/-- The core schema. -/
def resolve (text : List Char) : Yaml :=
  if ["".toList, "~".toList, "null".toList, "Null".toList, "NULL".toList].contains text then .null
  else if ["true".toList, "True".toList, "TRUE".toList].contains text then .bool true
  else if ["false".toList, "False".toList, "FALSE".toList].contains text then .bool false
  else if allDigits (withoutSign text) then
    let magnitude := Nat.ofDigitChars 10 (withoutSign text) 0
    .int (if text.head? = some '-' then -(magnitude : Int) else magnitude)
  else if isRadix 'x' "0123456789abcdefABCDEF" text then
    .int ((text.drop 2).foldl (fun total digit => total * 16 + digitIn "0123456789abcdef" digit) 0 : Nat)
  else if isRadix 'o' "01234567" text then
    .int ((text.drop 2).foldl (fun total digit => total * 8 + digitIn "01234567" digit) 0 : Nat)
  else if isFloat text then .float (String.ofList text)
  else .string (String.ofList text)

def trimEnd (text : List Char) : List Char := (text.reverse.dropWhile isBlankChar).reverse

/-- White space and a number sign start a comment. -/
def hasComment : List Char → Bool
  | c :: '#' :: rest => isBlankChar c || hasComment ('#' :: rest)
  | _ :: rest => hasComment rest
  | [] => false

/-- The value indicator: a colon before white space or at the end. -/
def hasIndicator : List Char → Bool
  | [] => false
  | [c] => c = ':'
  | c :: next :: rest => (c = ':' && isBlankChar next) || hasIndicator (next :: rest)

/-- A plain scalar that is all there is on its line or between two separators. -/
def plain (text : List Char) : Option Yaml :=
  let text := trimEnd text
  if text = [] then some .null
  else if startsPlain text && text.all isPrintable && !hasComment text then some (resolve text)
  else none

/-- Right before its value indicator, an indicator may also be the whole of a key. -/
def startsKey : List Char → Bool
  | [c] => c = '-' || c = '?' || c = ':' || startsPlain [c]
  | text => startsPlain text

/-- A plain scalar up to a value indicator. -/
def plainKey (text : List Char) : Option Yaml :=
  let key := trimEnd text
  if key = [] then some .null
  else if startsKey text && key.all isPrintable && !hasComment key then some (resolve key)
  else none

/-- A plain scalar that is a value has no value indicator. -/
def plainValue (text : List Char) : Option Yaml := if hasIndicator text then none else plain text

/-! ### Double quotes -/

def unescape : Char → Option Char
  | 'n' => some '\n'
  | 't' => some '\t'
  | 'r' => some '\r'
  | '0' => some (Char.ofNat 0)
  | 'a' => some (Char.ofNat 7)
  | 'b' => some (Char.ofNat 8)
  | 'v' => some (Char.ofNat 11)
  | 'f' => some (Char.ofNat 12)
  | 'e' => some (Char.ofNat 27)
  | ' ' => some ' '
  | '/' => some '/'
  | '"' => some '"'
  | '\\' => some '\\'
  | _ => none

/-- Behind the opening quote: the characters up to the closing one, and what follows it. -/
def unquote : List Char → Option (List Char × List Char)
  | [] => none
  | '"' :: rest => some ([], rest)
  | '\\' :: escaped :: rest => do
      let c ← unescape escaped
      let (text, left) ← unquote rest
      return (c :: text, left)
  | c :: rest => do
      if isJson c then
        let (text, left) ← unquote rest
        return (c :: text, left)
      else none

/-! ### Values and keys on a line -/

def skipBlank (text : List Char) : List Char := text.dropWhile isBlankChar

/-- Nothing, or a comment. -/
def endsLine (text : List Char) : Bool :=
  match skipBlank text with
  | [] => true
  | '#' :: _ => !(text.head? = some '#')
  | _ => false

/-- One item of a flow sequence. -/
def flowItem : List Char → Option (Yaml × List Char)
  | '"' :: rest => do
      let (text, left) ← unquote rest
      return (.string (String.ofList text), left)
  | text => do
      let item := text.takeWhile fun c => c ≠ ',' && c ≠ ']'
      let value ← plainValue item
      if item = [] then none else return (value, text.drop item.length)

/-- Behind the opening bracket. -/
def flowItems : Nat → List Char → Option (List Yaml × List Char)
  | 0, _ => none
  | fuel + 1, text =>
      match skipBlank text with
      | ']' :: rest => some ([], rest)
      | start => do
          let (item, left) ← flowItem start
          match skipBlank left with
          | ',' :: rest => do
              let (items, left) ← flowItems fuel rest
              return (item :: items, left)
          | ']' :: rest => return ([item], rest)
          | _ => none

def lineValue : List Char → Option Yaml
  | '"' :: rest => do
      let (text, left) ← unquote rest
      if endsLine left then return .string (String.ofList text) else none
  | '[' :: rest => do
      let (items, left) ← flowItems (rest.length + 1) rest
      if endsLine left then return .sequence items else none
  | text => plainValue text

/-- The text up to the value indicator, and what follows it. -/
def splitIndicator : List Char → Option (List Char × List Char)
  | [] => none
  | [c] => if c = ':' then some ([], []) else none
  | c :: next :: rest =>
      if c = ':' && isBlankChar next then some ([], rest)
      else (splitIndicator (next :: rest)).map fun parts => (c :: parts.1, parts.2)

/-- A key and the text behind its indicator. A key stands on one line and is not long. -/
def lineKey : List Char → Option (Yaml × List Char)
  | '"' :: rest => do
      let (text, left) ← unquote rest
      let (between, value) ← splitIndicator left
      if between.all isBlankChar then return (.string (String.ofList text), skipBlank value) else none
  | text => do
      let (key, value) ← splitIndicator text
      let key ← if key.length ≤ 1024 then plainKey key else none
      return (key, skipBlank value)

/-! ### Blocks -/

structure Line where
  indent : Nat
  text : List Char
  deriving DecidableEq

/-- Equality of keys that are scalars. -/
def sameKey : Yaml → Yaml → Bool
  | .null, .null => true
  | .bool first, .bool second => first == second
  | .int first, .int second => first == second
  | .float first, .float second => first == second
  | .string first, .string second => first == second
  | _, _ => false

def keysDiffer : List (Yaml × Yaml) → Bool
  | [] => true
  | entry :: rest => rest.all (fun other => !sameKey entry.1 other.1) && keysDiffer rest

def mappingOf (entries : List (Yaml × Yaml)) : Option Yaml :=
  if keysDiffer entries then some (.mapping entries) else none

/-- The entries of a block with the given indentation, and the lines behind it. -/
def readEntries : Nat → Nat → List Line → Option (List (Yaml × Yaml) × List Line)
  | 0, _, _ => none
  | _ + 1, _, [] => some ([], [])
  | fuel + 1, indent, line :: rest =>
      if line.indent < indent then some ([], line :: rest)
      else if indent < line.indent then none
      else do
        let (key, text) ← lineKey line.text
        let (value, left) ←
          if text ≠ [] then (lineValue text).map fun value => (value, rest)
          else match rest with
            | [] => some (.null, [])
            | next :: _ =>
                if indent < next.indent then do
                  let (inner, left) ← readEntries fuel next.indent rest
                  let value ← mappingOf inner
                  some (value, left)
                else some (.null, rest)
        let (others, left) ← readEntries fuel indent left
        return ((key, value) :: others, left)

/-- Lines end with a line feed, a carriage return, or both. -/
def splitLines : List Char → List Char → List (List Char)
  | pending, [] => [pending.reverse]
  | pending, '\r' :: '\n' :: rest => pending.reverse :: splitLines [] rest
  | pending, c :: rest =>
      if c = '\n' || c = '\r' then pending.reverse :: splitLines [] rest else splitLines (c :: pending) rest

def Line.of (text : List Char) : Line := ⟨(text.takeWhile (· = ' ')).length, text.dropWhile (· = ' ')⟩

/-- Empty lines and comments. -/
def Line.isIdle (line : Line) : Bool := line.text.all isBlankChar || line.text.head? = some '#'

def contentLines (text : List Char) : List Line :=
  ((splitLines [] text).map Line.of).filter fun line => !line.isIdle

end Yaml

open Yaml in
/-- A document that is a block mapping. -/
def readYaml (text : String) : Option Yaml := do
  let lines := contentLines text.toList
  let (entries, left) ← readEntries (lines.length + 1) 0 lines
  if left = [] then mappingOf entries else none

open Yaml in
/-- `readYaml` on the characters of the text. -/
def readCharacters (text : List Char) : Option Yaml := do
  let lines := contentLines text
  let (entries, left) ← readEntries (lines.length + 1) 0 lines
  if left = [] then mappingOf entries else none

theorem readYaml_ofList (text : List Char) : readYaml (String.ofList text) = readCharacters text := by
  rw [readYaml, String.toList_ofList]
  rfl

end TelemetryFabric.Library
