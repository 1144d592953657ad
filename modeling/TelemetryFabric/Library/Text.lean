import Mathlib.Algebra.Order.Ring.Nat
import Mathlib.Data.List.Basic
import Mathlib.Data.Nat.Notation

/-! Text primitives with the meaning the Rust standard library gives them: Unicode
white space, `split_whitespace`, decimal rendering and `parse::<u64>`. -/

namespace TelemetryFabric.Library

/-- The characters with the Unicode property White_Space, as `char::is_whitespace`. -/
def isWhitespace (c : Char) : Bool :=
  let code := c.toNat
  (0x09 ≤ code && code ≤ 0x0d) || code == 0x20 || code == 0x85 || code == 0xa0 || code == 0x1680 ||
    (0x2000 ≤ code && code ≤ 0x200a) || code == 0x2028 || code == 0x2029 || code == 0x202f ||
    code == 0x205f || code == 0x3000

theorem isUpper_iff {c : Char} : c.isUpper = true ↔ c.val ≥ 'A'.val ∧ c.val ≤ 'Z'.val := decide_eq_true_iff

theorem isLower_iff {c : Char} : c.isLower = true ↔ c.val ≥ 'a'.val ∧ c.val ≤ 'z'.val := by
  show (decide (c.val ≥ 'a'.val) && decide (c.val ≤ 'z'.val)) = true ↔ _
  rw [Bool.and_eq_true, decide_eq_true_iff, decide_eq_true_iff]

theorem isAlpha_iff {c : Char} : c.isAlpha = true ↔ c.isUpper = true ∨ c.isLower = true := Bool.or_eq_true _ _ |>.to_iff

/-- `value.trim().is_empty()`. -/
def isBlank (text : String) : Bool := text.toList.all isWhitespace

def wordsFrom : List Char → List Char → List (List Char)
  | [], word => if word = [] then [] else [word]
  | c :: rest, word =>
      if isWhitespace c then
        if word = [] then wordsFrom rest [] else word :: wordsFrom rest []
      else wordsFrom rest (word ++ [c])

/-- `str::split_whitespace`: the maximal runs of other characters. -/
def splitWhitespace (text : List Char) : List (List Char) := wordsFrom text []

/-- `str::parse::<u64>`: an optional plus sign, then at least one digit, below 2^64. -/
def parseU64 (text : List Char) : Option Nat :=
  let digits := match text with
    | '+' :: rest => rest
    | _ => text
  if digits ≠ [] ∧ digits.all Char.isDigit then
    let value := Nat.ofDigitChars 10 digits 0
    if value < 2 ^ 64 then some value else none
  else none

/-- The decimal digits `Display` writes for an unsigned integer. -/
def decimal (value : Nat) : List Char := Nat.toDigits 10 value

theorem decimal_isDigit {value : Nat} {c : Char} (member : c ∈ decimal value) : c.isDigit :=
  Nat.isDigit_of_mem_toDigits (by decide) (by decide) member

theorem decimal_ne_nil (value : Nat) : decimal value ≠ [] := Nat.toDigits_ne_nil

theorem not_whitespace_of_isDigit {c : Char} (digit : c.isDigit) : isWhitespace c = false := by
  simp only [Char.isDigit, Bool.and_eq_true, decide_eq_true_eq, UInt32.le_iff_toNat_le,
    ge_iff_le] at digit
  have range : 48 ≤ c.toNat ∧ c.toNat ≤ 57 := digit
  simp only [isWhitespace, Bool.or_eq_false_iff, Bool.and_eq_false_iff, decide_eq_false_iff_not,
    beq_eq_false_iff_ne]
  omega

theorem parseU64_decimal {value : Nat} (bound : value < 2 ^ 64) :
    parseU64 (decimal value) = some value := by
  have unsigned : ∀ rest, decimal value ≠ '+' :: rest := by
    intro rest same
    have member : '+' ∈ decimal value := by simp [same]
    exact absurd (decimal_isDigit member) (by decide)
  have all : decimal value ≠ [] ∧ (decimal value).all Char.isDigit = true :=
    ⟨decimal_ne_nil value, List.all_eq_true.mpr fun c member => decimal_isDigit member⟩
  have back : Nat.ofDigitChars 10 (decimal value) 0 = value := Nat.ofDigitChars_ten_toDigits
  unfold parseU64
  split
  next rest same => exact absurd same (unsigned rest)
  next => simp only [if_pos all, back, if_pos bound]

theorem wordsFrom_append (word rest pending : List Char)
    (solid : ∀ c ∈ word, isWhitespace c = false) :
    wordsFrom (word ++ rest) pending = wordsFrom rest (pending ++ word) := by
  induction word generalizing pending with
  | nil => simp
  | cons c word ih =>
    have first := solid c (by simp)
    rw [List.cons_append, wordsFrom, if_neg (by simp [first]),
      ih _ (fun other member => solid other (List.mem_cons_of_mem _ member))]
    simp

theorem wordsFrom_space (space : Char) (rest word : List Char) (blank : isWhitespace space = true)
    (nonempty : word ≠ []) : wordsFrom (space :: rest) word = word :: wordsFrom rest [] := by
  rw [wordsFrom, if_pos blank, if_neg nonempty]

/-- Two numbers written with blanks between and behind them are split back. -/
theorem splitWhitespace_pair (first second : Nat) :
    splitWhitespace (decimal first ++ ' ' :: (decimal second ++ ['\n'])) =
      [decimal first, decimal second] := by
  have solid : ∀ value, ∀ c ∈ decimal value, isWhitespace c = false :=
    fun value c member => not_whitespace_of_isDigit (decimal_isDigit member)
  rw [splitWhitespace, wordsFrom_append _ _ _ (solid first), List.nil_append,
    wordsFrom_space _ _ _ (by decide) (decimal_ne_nil first),
    wordsFrom_append _ _ _ (solid second), List.nil_append,
    wordsFrom_space _ _ _ (by decide) (decimal_ne_nil second)]
  rfl

end TelemetryFabric.Library
