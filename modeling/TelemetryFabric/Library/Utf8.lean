import Mathlib.Data.Nat.Notation

/-! The UTF-8 bytes of a text, `String::from_utf8`, and the message its error shows. -/

namespace TelemetryFabric.Library

/-- `str::as_bytes`. -/
def utf8 (text : String) : List UInt8 := text.toByteArray.data.toList

/-- `String::from_utf8`. -/
def fromUtf8? (bytes : List UInt8) : Option String := String.fromUTF8? ⟨bytes.toArray⟩

theorem fromUtf8?_utf8 (text : String) : fromUtf8? (utf8 text) = some text := by
  have valid : (ByteArray.mk text.toByteArray.data).IsValidUTF8 := text.isValidUTF8
  unfold fromUtf8? utf8 String.fromUTF8?
  rw [Array.toArray_toList, dif_pos valid]
  rfl

theorem utf8_injective {first second : String} (same : utf8 first = utf8 second) : first = second := by
  have read := congrArg fromUtf8? same
  rw [fromUtf8?_utf8, fromUtf8?_utf8] at read
  exact Option.some.inj read

theorem utf8_of_fromUtf8? {bytes : List UInt8} {text : String} (read : fromUtf8? bytes = some text) :
    utf8 text = bytes := by
  unfold fromUtf8? String.fromUTF8? at read
  split at read
  · cases read
    rfl
  · cases read

/-- How the first ill-formed sequence of a byte string ends: too early, or after the given
number of bytes. -/
inductive Utf8Fault where
  | incomplete
  | invalid (length : Nat)

def isContinuation (byte : UInt8) : Bool := 0x80 ≤ byte && byte ≤ 0xbf

/-- Whether a second byte may follow the lead byte of a longer sequence. -/
def secondFits (lead second : UInt8) : Bool :=
  if lead = 0xe0 then 0xa0 ≤ second && second ≤ 0xbf
  else if lead = 0xed then 0x80 ≤ second && second ≤ 0x9f
  else if lead = 0xf0 then 0x90 ≤ second && second ≤ 0xbf
  else if lead = 0xf4 then 0x80 ≤ second && second ≤ 0x8f
  else isContinuation second

/-- Check the bytes behind a lead byte, of which `seen` bytes are already right. -/
def continuationFault (seen : Nat) : Nat → List UInt8 → Option Utf8Fault
  | 0, _ => none
  | _ + 1, [] => some .incomplete
  | needed + 1, byte :: rest =>
      if isContinuation byte then continuationFault (seen + 1) needed rest else some (.invalid seen)

/-- The first sequence of a non-empty byte string: its length, or what is wrong with it. -/
def firstSequence (lead : UInt8) (rest : List UInt8) : Except Utf8Fault Nat :=
  let width := if lead < 0x80 then 1
    else if 0xc2 ≤ lead ∧ lead ≤ 0xdf then 2
    else if 0xe0 ≤ lead ∧ lead ≤ 0xef then 3
    else if 0xf0 ≤ lead ∧ lead ≤ 0xf4 then 4
    else 0
  if width = 0 then .error (.invalid 1)
  else if width = 1 then .ok 1
  else match rest with
    | [] => .error .incomplete
    | second :: later =>
        if secondFits lead second then
          match continuationFault 2 (width - 2) later with
          | none => .ok width
          | some fault => .error fault
        else .error (.invalid 1)

/-- The message of `FromUtf8Error`, with the position of the first ill-formed sequence. -/
def utf8ErrorText : Nat → Nat → List UInt8 → String
  | 0, _, _ => ""
  | _ + 1, _, [] => ""
  | fuel + 1, index, lead :: rest =>
      match firstSequence lead rest with
      | .ok width => utf8ErrorText fuel (index + width) (rest.drop (width - 1))
      | .error .incomplete => "incomplete utf-8 byte sequence from index " ++ toString index
      | .error (.invalid length) =>
          "invalid utf-8 sequence of " ++ toString length ++ " bytes from index " ++ toString index

/-- The characters of a byte string, with U+FFFD for each ill-formed sequence. -/
def lossyChars : Nat → List UInt8 → List Char
  | 0, _ => []
  | _ + 1, [] => []
  | fuel + 1, lead :: rest =>
      match firstSequence lead rest with
      | .ok width => ((fromUtf8? (lead :: rest.take (width - 1))).getD "").toList ++
          lossyChars fuel (rest.drop (width - 1))
      | .error .incomplete => ['\uFFFD']
      | .error (.invalid length) => '\uFFFD' :: lossyChars fuel (rest.drop (length - 1))

/-- `String::from_utf8_lossy`. -/
def fromUtf8Lossy (bytes : List UInt8) : String :=
  (fromUtf8? bytes).getD (String.ofList (lossyChars (bytes.length + 1) bytes))

theorem fromUtf8Lossy_utf8 (text : String) : fromUtf8Lossy (utf8 text) = text := by
  rw [fromUtf8Lossy, fromUtf8?_utf8, Option.getD_some]

def fromUtf8Error (bytes : List UInt8) : String := utf8ErrorText (bytes.length + 1) 0 bytes

end TelemetryFabric.Library
