import Mathlib.Data.String.Basic
import TelemetryFabric.Library.Numerals

/-! ASCII texts, whose UTF-8 bytes are their characters: the order of such texts is the order of
their bytes. -/

namespace TelemetryFabric.Library

def isAscii (c : Char) : Bool := c.toNat < 128

theorem utf8EncodeChar_of_ascii {c : Char} (ascii : isAscii c = true) :
    String.utf8EncodeChar c = [UInt8.ofNat c.toNat] := by
  have small : c.val.toNat < 128 := by simpa [isAscii] using ascii
  have size : c.utf8Size = 1 := by
    unfold Char.utf8Size
    rw [if_pos]
    rw [UInt32.le_iff_toNat_le]
    change c.val.toNat ≤ 127
    omega
  rw [String.utf8EncodeChar_eq_singleton size]
  rfl

theorem utf8_of_ascii {characters : List Char} (ascii : ∀ c ∈ characters, isAscii c = true) :
    utf8 (String.ofList characters) = characters.map fun c => UInt8.ofNat c.toNat := by
  induction characters with
  | nil => rfl
  | cons c rest ih =>
    have later := ih fun other member => ascii other (List.mem_cons_of_mem _ member)
    rw [utf8_ofList_cons, utf8EncodeChar_of_ascii (ascii c (by simp)), later]
    rfl

theorem lt_map_ascii {first second : List Char} (asciiFirst : ∀ c ∈ first, isAscii c = true)
    (asciiSecond : ∀ c ∈ second, isAscii c = true) (before : first < second) :
    first.map (fun c => UInt8.ofNat c.toNat) < second.map fun c => UInt8.ofNat c.toNat := by
  have code : ∀ c : Char, isAscii c = true → (UInt8.ofNat c.toNat).toNat = c.toNat := by
    intro c ascii
    have small : c.toNat < 128 := by simpa [isAscii] using ascii
    rw [UInt8.toNat_ofNat']
    omega
  induction before with
  | nil => exact List.Lex.nil
  | @rel c rest d later less =>
    apply List.Lex.rel
    rw [UInt8.lt_iff_toNat_lt, code c (asciiFirst c (by simp)), code d (asciiSecond d (by simp))]
    exact less
  | @cons c rest later _ ih =>
    exact List.Lex.cons (ih (fun other member => asciiFirst other (List.mem_cons_of_mem _ member))
      fun other member => asciiSecond other (List.mem_cons_of_mem _ member))

/-- Among ASCII texts the order of the characters is that of the bytes. -/
theorem utf8_lt_of_lt {first second : String} (asciiFirst : ∀ c ∈ first.toList, isAscii c = true)
    (asciiSecond : ∀ c ∈ second.toList, isAscii c = true) (before : first < second) : utf8 first < utf8 second := by
  have bytes := lt_map_ascii asciiFirst asciiSecond (String.lt_iff_toList_lt.mp before)
  rw [← utf8_of_ascii asciiFirst, ← utf8_of_ascii asciiSecond, String.ofList_toList, String.ofList_toList] at bytes
  exact bytes

end TelemetryFabric.Library
