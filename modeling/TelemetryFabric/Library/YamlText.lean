import TelemetryFabric.Library.Yaml
import Mathlib.Data.Bool.AllAny
import Mathlib.Data.List.Basic
import Mathlib.Order.Nat

/-! How YAML is written so that it is read back: keys, quoted strings, numbers and flow sequences
on a line, and lines put together to blocks. -/

namespace TelemetryFabric.Library
namespace Yaml

/-! ### Blocks -/

/-- The lines of a block, by the rules that `readEntries` follows. -/
inductive ReadsBlock : Nat → List Line → List (Yaml × Yaml) → List Line → Prop where
  | done {indent : Nat} {left : List Line} (outer : ∀ line ∈ left.head?, line.indent < indent) :
      ReadsBlock indent left [] left
  | scalar {indent : Nat} {text valueText : List Char} {key value : Yaml} {rest left : List Line}
      {others : List (Yaml × Yaml)} (keyed : lineKey text = some (key, valueText)) (given : valueText ≠ [])
      (valued : lineValue valueText = some value) (onward : ReadsBlock indent rest others left) :
      ReadsBlock indent (⟨indent, text⟩ :: rest) ((key, value) :: others) left
  | empty {indent : Nat} {text : List Char} {key : Yaml} {rest left : List Line} {others : List (Yaml × Yaml)}
      (keyed : lineKey text = some (key, [])) (flat : ∀ line ∈ rest.head?, line.indent ≤ indent)
      (onward : ReadsBlock indent rest others left) :
      ReadsBlock indent (⟨indent, text⟩ :: rest) ((key, .null) :: others) left
  | nested {indent : Nat} {text : List Char} {key : Yaml} {next : Line} {rest middle left : List Line}
      {inner others : List (Yaml × Yaml)} (keyed : lineKey text = some (key, [])) (deeper : indent < next.indent)
      (inside : ReadsBlock next.indent (next :: rest) inner middle) (distinct : keysDiffer inner = true)
      (onward : ReadsBlock indent middle others left) :
      ReadsBlock indent (⟨indent, text⟩ :: next :: rest) ((key, .mapping inner) :: others) left

namespace ReadsBlock

theorem length_le {indent : Nat} {lines left : List Line} {entries : List (Yaml × Yaml)}
    (reads : ReadsBlock indent lines entries left) : left.length ≤ lines.length := by
  induction reads with
  | done outer => exact Nat.le_refl _
  | scalar keyed given valued onward ih =>
    rw [List.length_cons]
    omega
  | empty keyed flat onward ih =>
    rw [List.length_cons]
    omega
  | nested keyed deeper inside distinct onward insideLe onwardLe =>
    rw [List.length_cons]
    omega

/-- The rules are those of the reader. -/
theorem readEntries_eq {indent fuel : Nat} {lines left : List Line} {entries : List (Yaml × Yaml)}
    (reads : ReadsBlock indent lines entries left) (enough : lines.length < fuel) :
    readEntries fuel indent lines = some (entries, left) := by
  induction reads generalizing fuel with
  | @done indent left outer =>
    obtain ⟨fuel, rfl⟩ := Nat.exists_eq_succ_of_ne_zero (Nat.ne_zero_of_lt enough)
    cases left with
    | nil => rfl
    | cons line rest =>
      have less := outer line rfl
      simp only [readEntries, if_pos less]
  | @scalar indent text valueText key value rest left others keyed given valued onward ih =>
    obtain ⟨fuel, rfl⟩ := Nat.exists_eq_succ_of_ne_zero (Nat.ne_zero_of_lt enough)
    rw [List.length_cons] at enough
    have more : readEntries fuel indent rest = some (others, left) := ih (by omega)
    simp only [readEntries, Nat.lt_irrefl, if_false, keyed, Option.bind_eq_bind, Option.bind_some, given, ne_eq,
      not_false_eq_true, if_true, valued, Option.map_some, more, Option.pure_def]
  | @empty indent text key rest left others keyed flat onward ih =>
    obtain ⟨fuel, rfl⟩ := Nat.exists_eq_succ_of_ne_zero (Nat.ne_zero_of_lt enough)
    rw [List.length_cons] at enough
    have more : readEntries fuel indent rest = some (others, left) := ih (by omega)
    cases rest with
    | nil =>
      simp only [readEntries, Nat.lt_irrefl, if_false, keyed, Option.bind_eq_bind, Option.bind_some, ne_eq,
        not_true_eq_false, more, Option.pure_def]
    | cons line rest =>
      have level : ¬indent < line.indent := Nat.not_lt.mpr (flat line rfl)
      simp only [readEntries, Nat.lt_irrefl, if_false, keyed, Option.bind_eq_bind, Option.bind_some, ne_eq,
        not_true_eq_false, level, more, Option.pure_def]
  | @nested indent text key next rest middle left inner others keyed deeper inside distinct onward ihInside ihOnward =>
    obtain ⟨fuel, rfl⟩ := Nat.exists_eq_succ_of_ne_zero (Nat.ne_zero_of_lt enough)
    have shorter := inside.length_le
    rw [List.length_cons] at enough
    have first : readEntries fuel next.indent (next :: rest) = some (inner, middle) := ihInside (by omega)
    have more : readEntries fuel indent middle = some (others, left) := ihOnward (by omega)
    simp only [readEntries, Nat.lt_irrefl, if_false, keyed, Option.bind_eq_bind, Option.bind_some, ne_eq,
      not_true_eq_false, deeper, if_true, first, mappingOf, distinct, more, Option.pure_def]

/-- What a block starts with is not indented deeper. -/
theorem head_le {indent : Nat} {lines left : List Line} {entries : List (Yaml × Yaml)}
    (reads : ReadsBlock indent lines entries left) : ∀ line ∈ lines.head?, line.indent ≤ indent := by
  cases reads with
  | done outer => exact fun line first => (outer line first).le
  | scalar keyed given valued onward =>
    intro line first
    cases first
    exact le_rfl
  | empty keyed flat onward =>
    intro line first
    cases first
    exact le_rfl
  | nested keyed deeper inside distinct onward =>
    intro line first
    cases first
    exact le_rfl

/-- Nothing is read from lines that belong to an outer block, and from no others. -/
theorem nil_iff {indent : Nat} {lines left : List Line} {entries : List (Yaml × Yaml)}
    (reads : ReadsBlock indent lines entries left) :
    entries = [] ↔ ∀ line ∈ lines.head?, line.indent < indent := by
  cases reads with
  | done outer => exact ⟨fun _ => outer, fun _ => rfl⟩
  | scalar keyed given valued onward =>
    exact ⟨(fun absurd => nomatch absurd), fun outer => absurd (outer _ rfl) (Nat.lt_irrefl _)⟩
  | empty keyed flat onward =>
    exact ⟨(fun absurd => nomatch absurd), fun outer => absurd (outer _ rfl) (Nat.lt_irrefl _)⟩
  | nested keyed deeper inside distinct onward =>
    exact ⟨(fun absurd => nomatch absurd), fun outer => absurd (outer _ rfl) (Nat.lt_irrefl _)⟩

end ReadsBlock

/-- The value of a key with a block below it. -/
def blockNode (entries : List (Yaml × Yaml)) : Yaml := if entries = [] then .null else .mapping entries

namespace ReadsBlock

variable {indent : Nat} {left final : List Line} {others : List (Yaml × Yaml)}

/-- A key with the lines of a deeper block below it, if there are any. -/
theorem block {deeper : Nat} {text : List Char} {key : Yaml} {inner : List Line} {entries : List (Yaml × Yaml)}
    (keyed : lineKey text = some (key, [])) (less : indent < deeper)
    (starts : ∀ line ∈ inner.head?, line.indent = deeper)
    (inside : ∀ left : List Line, (∀ line ∈ left.head?, line.indent < deeper) → ReadsBlock deeper (inner ++ left) entries left)
    (distinct : keysDiffer entries = true) (onward : ReadsBlock indent left others final) :
    ReadsBlock indent (⟨indent, text⟩ :: (inner ++ left)) ((key, blockNode entries) :: others) final := by
  have outer : ∀ line ∈ left.head?, line.indent < deeper :=
    fun line first => Nat.lt_of_le_of_lt (onward.head_le line first) less
  have below := inside left outer
  cases inner with
  | nil =>
    -- nothing below: the block ends where it starts
    have none_read : entries = [] := below.nil_iff.mpr outer
    rw [none_read, blockNode, if_pos rfl]
    exact .empty keyed onward.head_le onward
  | cons first rest =>
    have first_indent : first.indent = deeper := starts first rfl
    have some_read : entries ≠ [] := by
      intro nothing
      have outside := below.nil_iff.mp nothing first rfl
      omega
    rw [blockNode, if_neg some_read]
    have within : ReadsBlock first.indent (first :: (rest ++ left)) entries left := by
      rw [first_indent]
      exact below
    exact .nested keyed (by omega) within distinct onward

end ReadsBlock

/-! ### Keys -/

/-- A colon before white space. -/
def hasInnerIndicator : List Char → Bool
  | c :: next :: rest => (c = ':' && isBlankChar next) || hasInnerIndicator (next :: rest)
  | _ => false

/-- A text that is read back when it stands as a key. -/
structure IsKey (text : List Char) (key : Yaml) : Prop where
  solid : trimEnd text = text
  starts : startsKey text = true
  printable : text.all isPrintable = true
  comment : hasComment text = false
  indicator : hasInnerIndicator text = false
  short : text.length ≤ 1024
  resolved : resolve text = key

theorem splitIndicator_key {text : List Char} (indicator : hasInnerIndicator text = false) :
    splitIndicator (text ++ [':']) = some (text, []) := by
  induction text with
  | nil => rfl
  | cons c rest ih =>
    cases rest with
    | nil =>
      have solid : (c = ':' && isBlankChar ':') = false := by simp [isBlankChar]
      simp only [List.cons_append, List.nil_append, splitIndicator, solid, Bool.false_eq_true, if_false, if_true,
        Option.map_some]
    | cons next more =>
      simp only [hasInnerIndicator, Bool.or_eq_false_iff] at indicator
      have onward := ih indicator.2
      simp only [List.cons_append] at onward ⊢
      simp only [splitIndicator, indicator.1, Bool.false_eq_true, if_false, onward, Option.map_some]

theorem splitIndicator_key_value {text : List Char} (indicator : hasInnerIndicator text = false) (value : List Char) :
    splitIndicator (text ++ ':' :: ' ' :: value) = some (text, value) := by
  induction text with
  | nil => simp [splitIndicator, isBlankChar]
  | cons c rest ih =>
    cases rest with
    | nil =>
      have solid : (c = ':' && isBlankChar ':') = false := by simp [isBlankChar]
      have blank : isBlankChar ' ' = true := by decide
      simp only [List.cons_append, List.nil_append, splitIndicator, solid, Bool.false_eq_true, if_false, blank,
        Bool.and_true, decide_true, if_true, Option.map_some]
    | cons next more =>
      simp only [hasInnerIndicator, Bool.or_eq_false_iff] at indicator
      have onward := ih indicator.2
      simp only [List.cons_append] at onward ⊢
      simp only [splitIndicator, indicator.1, Bool.false_eq_true, if_false, onward, Option.map_some]

namespace IsKey

variable {text : List Char} {key : Yaml}

theorem ne_nil (named : IsKey text key) : text ≠ [] := by
  rintro rfl
  cases named.starts

theorem plainKey_eq (named : IsKey text key) : plainKey text = some key := by
  unfold plainKey
  simp only [named.solid, named.ne_nil, if_false, named.starts, named.printable, named.comment, Bool.not_false,
    Bool.and_true, if_true, named.resolved]

/-- It does not start with a quote. -/
theorem not_quoted (named : IsKey text key) {rest : List Char} : text ≠ '"' :: rest := by
  rintro rfl
  have starts := named.starts
  cases rest with
  | nil => revert starts; decide
  | cons next more => simp [startsKey, startsPlain, indicators] at starts

theorem lineKey_plain {line : List Char} (named : IsKey text key) (suffix : List Char) (same : line = text ++ suffix)
    {value : List Char} (split : splitIndicator line = some (text, value)) :
    lineKey line = some (key, skipBlank value) := by
  unfold lineKey
  split
  next rest =>
    cases text with
    | nil => exact absurd rfl named.ne_nil
    | cons c more =>
      obtain ⟨rfl, -⟩ := List.cons.inj same
      exact absurd rfl named.not_quoted
  next =>
    simp only [split, Option.bind_eq_bind, Option.bind_some, named.short, if_true, named.plainKey_eq, Option.pure_def]

theorem lineKey_alone (named : IsKey text key) : lineKey (text ++ [':']) = some (key, []) :=
  named.lineKey_plain [':'] rfl (splitIndicator_key named.indicator)

theorem lineKey_value (named : IsKey text key) (value : List Char) :
    lineKey (text ++ ':' :: ' ' :: value) = some (key, skipBlank value) :=
  named.lineKey_plain _ rfl (splitIndicator_key_value named.indicator value)

end IsKey

/-- The test for a text that is read back as the string it is. -/
def namesItself (text : String) : Bool :=
  decide (trimEnd text.toList = text.toList) && startsKey text.toList && text.toList.all isPrintable &&
    !hasComment text.toList && !hasInnerIndicator text.toList && decide (text.toList.length ≤ 1024) &&
    match resolve text.toList with
    | .string shown => shown == text
    | _ => false

theorem isKey_iff_namesItself {text : String} : IsKey text.toList (.string text) ↔ namesItself text = true := by
  have resolves : resolve text.toList = .string text ↔
      (match resolve text.toList with | .string shown => shown == text | _ => false) = true := by
    cases resolve text.toList <;> simp
  simp only [namesItself, Bool.and_eq_true, decide_eq_true_eq, Bool.not_eq_true', ← resolves]
  constructor
  · intro named
    exact ⟨⟨⟨⟨⟨⟨named.solid, named.starts⟩, named.printable⟩, named.comment⟩, named.indicator⟩, named.short⟩, named.resolved⟩
  · rintro ⟨⟨⟨⟨⟨⟨solid, starts⟩, printable⟩, comment⟩, indicator⟩, short⟩, resolved⟩
    exact ⟨solid, starts, printable, comment, indicator, short, resolved⟩

/-! ### Scalars on a line -/

def escapeChar (c : Char) : List Char :=
  if c = '\\' then ['\\', '\\'] else if c = '"' then ['\\', '"'] else if c = '\n' then ['\\', 'n'] else [c]

theorem escapeChar_ne_quote (c : Char) (rest others : List Char) : escapeChar c ++ rest ≠ '"' :: others := by
  unfold escapeChar
  split_ifs with backslash quote feed
  · simp
  · simp
  · simp
  · simp [quote]

theorem escapeChar_inj {first second : Char} {rest others : List Char}
    (same : escapeChar first ++ rest = escapeChar second ++ others) : first = second ∧ rest = others := by
  unfold escapeChar at same
  grind

/-- A quoted scalar ends at its first quote that is no part of an escape. -/
theorem escaped_inj {first second rest others : List Char}
    (same : first.flatMap escapeChar ++ '"' :: rest = second.flatMap escapeChar ++ '"' :: others) : first = second := by
  induction first generalizing second with
  | nil =>
    cases second with
    | nil => rfl
    | cons c second =>
      rw [List.flatMap_cons, List.append_assoc] at same
      exact absurd same.symm (escapeChar_ne_quote c _ _)
  | cons d first ih =>
    cases second with
    | nil =>
      rw [List.flatMap_cons, List.append_assoc] at same
      exact absurd same (escapeChar_ne_quote d _ _)
    | cons c second =>
      rw [List.flatMap_cons, List.flatMap_cons, List.append_assoc, List.append_assoc] at same
      obtain ⟨rfl, others⟩ := escapeChar_inj same
      rw [ih others]

/-- A character that a quoted scalar holds as it is, or that has an escape. -/
def isQuotable (c : Char) : Bool := isJson c || c = '\n'

theorem unquote_escape {text : List Char} (quotable : ∀ c ∈ text, isQuotable c = true) (rest : List Char) :
    unquote (text.flatMap escapeChar ++ '"' :: rest) = some (text, rest) := by
  induction text with
  | nil => rfl
  | cons c text ih =>
    obtain ⟨first, others⟩ := List.forall_mem_cons.mp quotable
    have onward := ih others
    rw [List.flatMap_cons, List.append_assoc]
    rw [escapeChar]
    split_ifs with backslash quote feed
    · simp [unquote, unescape, onward, backslash]
    · simp [unquote, unescape, onward, quote]
    · simp [unquote, unescape, onward, feed]
    · have whole : isJson c = true := by simpa [isQuotable, feed] using first
      rw [List.singleton_append]
      unfold unquote
      split
      next same => cases same
      next same =>
        obtain ⟨rfl, -⟩ := List.cons.inj same
        exact absurd rfl quote
      next same =>
        obtain ⟨rfl, -⟩ := List.cons.inj same
        exact absurd rfl backslash
      next head tail same =>
        obtain ⟨rfl, rfl⟩ := List.cons.inj same
        simp [whole, onward]

def isBreak (c : Char) : Bool := c = '\n' || c = '\r'

/-- A text that is read back as a value on a line, and in a flow sequence. -/
structure IsFlow (text : List Char) (value : Yaml) : Prop where
  starts : ∃ c rest, text = c :: rest ∧ isBlankChar c = false ∧ c ≠ ']'
  whole : ∀ c ∈ text, isBreak c = false
  line : lineValue text = some value
  item : ∀ c rest, c = ',' ∨ c = ']' → flowItem (text ++ c :: rest) = some (value, c :: rest)

theorem isBreak_escapeChar {c : Char} (quotable : isQuotable c = true) : ∀ shown ∈ escapeChar c, isBreak shown = false := by
  rw [escapeChar]
  split_ifs with backslash quote feed
  · exact List.all_iff_forall_prop.mp (by decide)
  · exact List.all_iff_forall_prop.mp (by decide)
  · exact List.all_iff_forall_prop.mp (by decide)
  · intro shown member
    rw [List.mem_singleton.mp member]
    have carriage : c ≠ '\r' := by
      rintro rfl
      exact absurd quotable (by decide)
    simp [isBreak, feed, carriage]

theorem isFlow_quoted {text : List Char} (quotable : ∀ c ∈ text, isQuotable c = true) :
    IsFlow ('"' :: (text.flatMap escapeChar ++ ['"'])) (.string (String.ofList text)) where
  starts := ⟨'"', _, rfl, by decide, by decide⟩
  whole c member := by
    rw [List.mem_cons, List.mem_append, List.mem_flatMap, List.mem_singleton] at member
    rcases member with rfl | ⟨source, inside, shown⟩ | rfl
    · decide
    · exact isBreak_escapeChar (quotable source inside) c shown
    · decide
  line := by
    simp only [lineValue, unquote_escape quotable, Option.bind_eq_bind, Option.bind_some]
    rfl
  item c rest _ := by
    rw [List.cons_append, List.append_assoc]
    simp only [flowItem, List.singleton_append, unquote_escape quotable, Option.bind_eq_bind, Option.bind_some]
    rfl

theorem trimEnd_of_solid {text : List Char} (solid : ∀ c ∈ text, isBlankChar c = false) : trimEnd text = text := by
  have same : text.reverse.dropWhile isBlankChar = text.reverse :=
    dropWhile_eq_self fun c member => solid c (List.mem_reverse.mp member)
  rw [trimEnd, same, List.reverse_reverse]

theorem hasComment_of_absent {text : List Char} (absent : '#' ∉ text) : hasComment text = false := by
  induction text with
  | nil => rfl
  | cons c rest ih =>
    have onward := ih fun later => absent (List.mem_cons_of_mem c later)
    unfold hasComment
    split
    next more same =>
      obtain ⟨-, rfl⟩ := List.cons.inj same
      exact absurd (List.mem_cons_of_mem c List.mem_cons_self) absent
    next head more _ same =>
      obtain ⟨-, rfl⟩ := List.cons.inj same
      exact onward
    next same => cases same

theorem hasIndicator_of_absent {text : List Char} (absent : ':' ∉ text) : hasIndicator text = false := by
  induction text with
  | nil => rfl
  | cons c rest ih =>
    have onward := ih fun later => absent (List.mem_cons_of_mem c later)
    have other : c ≠ ':' := fun same => absent (same ▸ List.mem_cons_self)
    cases rest with
    | nil => simp [hasIndicator, other]
    | cons next more => simp only [hasIndicator, other, decide_false, Bool.false_and, Bool.false_or, onward]

/-- Letters, digits and the minus sign. -/
def isWordChar (c : Char) : Bool := c.isAlphanum || c = '-'

theorem isPrintable_of_isWordChar {c : Char} (word : isWordChar c = true) : isPrintable c = true := by
  have bounds : 32 ≤ c.toNat ∧ c.toNat < 127 := by
    simp only [isWordChar, Char.isAlphanum, isAlpha_iff, isUpper_iff, isLower_iff, Char.isDigit, Bool.or_eq_true,
      Bool.and_eq_true, decide_eq_true_eq, ge_iff_le, UInt32.le_iff_toNat_le] at word
    change 32 ≤ c.val.toNat ∧ c.val.toNat < 127
    rcases word with ((upper | lower) | digit) | rfl
    · exact ⟨le_trans (by decide) upper.1, Nat.lt_of_le_of_lt upper.2 (by decide)⟩
    · exact ⟨le_trans (by decide) lower.1, Nat.lt_of_le_of_lt lower.2 (by decide)⟩
    · exact ⟨le_trans (by decide) digit.1, Nat.lt_of_le_of_lt digit.2 (by decide)⟩
    · decide
  have whole : isJson c = true := by simpa [isJson] using Or.inr bounds.1
  have control : decide (0x7F ≤ c.toNat) = false := decide_eq_false (by omega)
  have special : [0xFEFF, 0xFFFE, 0xFFFF].contains c.toNat = false := by
    simp only [List.contains_cons, List.contains_nil, Bool.or_false, Bool.or_eq_false_iff, beq_eq_false_iff_ne]
    omega
  simp only [isPrintable, whole, control, special, Bool.false_and, Bool.not_false, Bool.and_true]

/-- A plain scalar of such characters. -/
theorem isFlow_plain {text : List Char} {value : Yaml} (words : ∀ c ∈ text, isWordChar c = true)
    (starts : startsPlain text = true) (resolved : resolve text = value) : IsFlow text value := by
  have other : ∀ {special : Char}, isWordChar special = false → special ∉ text := by
    intro special no member
    rw [words special member] at no
    cases no
  have solid : ∀ c ∈ text, isBlankChar c = false := by
    intro c member
    unfold isBlankChar
    have space : c ≠ ' ' := fun same => other (show isWordChar ' ' = false by decide) (same ▸ member)
    have tab : c ≠ '\t' := fun same => other (show isWordChar '\t' = false by decide) (same ▸ member)
    simp [space, tab]
  obtain ⟨first, rest, rfl⟩ : ∃ first rest, text = first :: rest := by
    cases text with
    | nil => cases starts
    | cons first rest => exact ⟨first, rest, rfl⟩
  have not_first : ∀ {special : Char}, isWordChar special = false → first ≠ special :=
    fun no same => other no (same ▸ List.mem_cons_self)
  have value_eq : plainValue (first :: rest) = some value := by
    unfold plainValue plain
    have printable : (first :: rest).all isPrintable = true :=
      List.all_eq_true.mpr fun c member => isPrintable_of_isWordChar (words c member)
    have comment : hasComment (first :: rest) = false := hasComment_of_absent (other (by decide))
    have indicator : hasIndicator (first :: rest) = false := hasIndicator_of_absent (other (by decide))
    simp only [indicator, Bool.false_eq_true, if_false, trimEnd_of_solid solid, reduceCtorEq, starts, printable, comment,
      Bool.not_false, Bool.and_true, if_true, resolved]
  refine ⟨⟨first, rest, rfl, solid first List.mem_cons_self, not_first (by decide)⟩, ?_, ?_, ?_⟩
  · intro c member
    apply Bool.eq_false_iff.mpr
    intro breaks
    rw [isBreak, Bool.or_eq_true, decide_eq_true_eq, decide_eq_true_eq] at breaks
    rcases breaks with rfl | rfl
    · exact other (by decide) member
    · exact other (by decide) member
  · unfold lineValue
    split
    next same => exact absurd (List.cons.inj same).1 (not_first (by decide))
    next same => exact absurd (List.cons.inj same).1 (not_first (by decide))
    next => exact value_eq
  · intro c more ends
    have upto : ((first :: rest) ++ c :: more).takeWhile (fun c => c ≠ ',' && c ≠ ']') = first :: rest := by
      rw [List.takeWhile_append_of_pos]
      · have stop : (c :: more).takeWhile (fun c => c ≠ ',' && c ≠ ']') = [] := by
          apply List.takeWhile_cons_of_neg
          rcases ends with rfl | rfl <;> decide
        rw [stop, List.append_nil]
      · intro inside member
        have comma : inside ≠ ',' := fun same => other (show isWordChar ',' = false by decide) (same ▸ member)
        have bracket : inside ≠ ']' := fun same => other (show isWordChar ']' = false by decide) (same ▸ member)
        simp [comma, bracket]
    unfold flowItem
    split
    next same => exact absurd (List.cons.inj same).1 (not_first (by decide))
    next =>
      simp only [upto, value_eq, Option.bind_eq_bind, Option.bind_some, reduceCtorEq, if_false, Option.pure_def,
        List.drop_left]

theorem isFlow_bool (value : Bool) : IsFlow (showBool value).toList (.bool value) := by
  cases value with
  | true => exact isFlow_plain (List.all_eq_true.mp (by decide)) (by decide) rfl
  | false => exact isFlow_plain (List.all_eq_true.mp (by decide)) (by decide) rfl

theorem resolve_digits {text : List Char} (digits : allDigits (withoutSign text) = true) :
    resolve text = .int (if text.head? = some '-' then -(Nat.ofDigitChars 10 (withoutSign text) 0 : Int)
      else Nat.ofDigitChars 10 (withoutSign text) 0) := by
  obtain ⟨digit, member, isDigit⟩ : ∃ digit ∈ text, digit.isDigit = true := by
    simp only [allDigits, Bool.and_eq_true, Bool.not_eq_true', List.isEmpty_eq_false_iff, List.all_eq_true] at digits
    obtain ⟨digit, inside⟩ := List.exists_mem_of_ne_nil _ digits.1
    have member : digit ∈ text := by
      unfold withoutSign at inside
      split at inside
      · exact List.mem_cons_of_mem _ inside
      · exact List.mem_cons_of_mem _ inside
      · exact inside
    exact ⟨digit, member, digits.2 digit inside⟩
  -- none of the words of the schema has a digit
  have no_word : ∀ words : List (List Char), (words.all fun word => word.all fun c => !c.isDigit) = true →
      words.contains text = false := by
    intro words wordless
    apply Bool.eq_false_iff.mpr
    intro listed
    have here := List.all_eq_true.mp wordless text (List.contains_iff_mem.mp listed)
    have none_here := List.all_eq_true.mp here digit member
    rw [isDigit] at none_here
    cases none_here
  unfold resolve
  rw [no_word _ (by decide), no_word _ (by decide), no_word _ (by decide)]
  simp only [Bool.false_eq_true, if_false, digits, if_true]

theorem isBlankChar_of_isDigit {c : Char} (digit : c.isDigit = true) : isBlankChar c = false := by
  have space : c ≠ ' ' := by
    rintro rfl
    exact absurd digit (by decide)
  have tab : c ≠ '\t' := by
    rintro rfl
    exact absurd digit (by decide)
  simp [isBlankChar, space, tab]

theorem startsPlain_of_isDigit {first : Char} (digit : first.isDigit = true) (rest : List Char) :
    startsPlain (first :: rest) = true := by
  have unlisted : indicators.contains first = false := by
    apply Bool.eq_false_iff.mpr
    intro listed
    have no_digit : ∀ c ∈ indicators, c.isDigit = false := List.all_iff_forall_prop.mp (by decide)
    rw [no_digit first (List.contains_iff_mem.mp listed)] at digit
    cases digit
  have solid := isBlankChar_of_isDigit digit
  cases rest with
  | nil => simp only [startsPlain, unlisted, solid, Bool.not_false, Bool.and_true]
  | cons next more => simp only [startsPlain, unlisted, solid, Bool.not_false, Bool.and_true, Bool.true_or]

theorem startsPlain_minus {first : Char} (digit : first.isDigit = true) (rest : List Char) :
    startsPlain ('-' :: first :: rest) = true := by
  have minus : isBlankChar '-' = false := by decide
  simp only [startsPlain, isBlankChar_of_isDigit digit, minus, decide_true, Bool.true_or, Bool.not_false, Bool.and_true,
    Bool.or_true]

theorem allDigits_decimal (magnitude : Nat) : allDigits (decimal magnitude) = true := by
  have all : (decimal magnitude).all Char.isDigit = true := List.all_eq_true.mpr fun c member => decimal_isDigit member
  simp [allDigits, all, decimal_ne_nil magnitude]

theorem withoutSign_decimal (magnitude : Nat) : withoutSign (decimal magnitude) = decimal magnitude := by
  unfold withoutSign
  split
  next digits other => exact absurd other (decimal_ne_cons (by decide) digits)
  next digits other => exact absurd other (decimal_ne_cons (by decide) digits)
  next => rfl

theorem resolve_decimalInt (value : Int) : resolve (decimalInt value) = .int value := by
  have read_back : ∀ magnitude : Nat, Nat.ofDigitChars 10 (decimal magnitude) 0 = magnitude :=
    fun magnitude => Nat.ofDigitChars_ten_toDigits
  cases value with
  | ofNat magnitude =>
    have minus : (decimal magnitude).head? ≠ some '-' := by
      intro first
      exact decimal_ne_cons (by decide) _ (List.eq_cons_of_mem_head? first)
    have digits : allDigits (withoutSign (decimal magnitude)) = true := by
      rw [withoutSign_decimal]
      exact allDigits_decimal magnitude
    change resolve (decimal magnitude) = _
    rw [resolve_digits digits, withoutSign_decimal, if_neg minus, read_back]
    rfl
  | negSucc magnitude =>
    have digits : allDigits (withoutSign ('-' :: decimal (magnitude + 1))) = true := allDigits_decimal (magnitude + 1)
    change resolve ('-' :: decimal (magnitude + 1)) = _
    rw [resolve_digits digits]
    simp only [List.head?_cons, if_true, withoutSign, read_back, Int.negSucc_eq]
    rfl

theorem isWordChar_of_isDigit {c : Char} (digit : c.isDigit = true) : isWordChar c = true := by
  simp only [isWordChar, Char.isAlphanum, digit, Bool.or_true, Bool.true_or]

theorem isWordChar_decimalInt {value : Int} : ∀ c ∈ decimalInt value, isWordChar c = true := by
  intro c member
  cases value with
  | ofNat magnitude => exact isWordChar_of_isDigit (decimal_isDigit member)
  | negSucc magnitude =>
    rcases List.mem_cons.mp member with rfl | inside
    · decide
    · exact isWordChar_of_isDigit (decimal_isDigit inside)

theorem startsPlain_decimalInt (value : Int) : startsPlain (decimalInt value) = true := by
  cases value with
  | ofNat magnitude =>
    obtain ⟨first, rest, same⟩ := List.exists_cons_of_ne_nil (decimal_ne_nil magnitude)
    change startsPlain (decimal magnitude) = true
    rw [same]
    exact startsPlain_of_isDigit (decimal_isDigit (by rw [same]; exact List.mem_cons_self)) rest
  | negSucc magnitude =>
    obtain ⟨first, rest, same⟩ := List.exists_cons_of_ne_nil (decimal_ne_nil (magnitude + 1))
    change startsPlain ('-' :: decimal (magnitude + 1)) = true
    rw [same]
    exact startsPlain_minus (decimal_isDigit (by rw [same]; exact List.mem_cons_self)) rest

theorem isFlow_int (value : Int) : IsFlow (decimalInt value) (.int value) :=
  isFlow_plain isWordChar_decimalInt (startsPlain_decimalInt value) (resolve_decimalInt value)

/-! ### Flow sequences -/

theorem flowItems_blank (fuel : Nat) (text : List Char) : flowItems fuel (' ' :: text) = flowItems fuel text := by
  cases fuel with
  | zero => rfl
  | succ fuel => rfl

/-- One item, and what its end says about the others. -/
theorem flowItems_item {text rest : List Char} {value : Yaml} (flow : IsFlow text value) (fuel : Nat) {c : Char}
    (ends : c = ',' ∨ c = ']') : flowItems (fuel + 1) (text ++ c :: rest) =
      if c = ',' then (flowItems fuel rest).map fun parts => (value :: parts.1, parts.2) else some ([value], rest) := by
  obtain ⟨first, others, rfl, solid, open_bracket⟩ := flow.starts
  have item := flow.item c rest ends
  have start : skipBlank (first :: others ++ c :: rest) = first :: others ++ c :: rest :=
    List.dropWhile_cons_of_neg (Bool.eq_false_iff.mp solid)
  have stop : skipBlank (c :: rest) = c :: rest := by
    apply List.dropWhile_cons_of_neg
    rcases ends with rfl | rfl <;> decide
  rw [flowItems, start]
  split
  next same => exact absurd (List.cons.inj same).1 open_bracket
  next =>
    simp only [item, Option.bind_eq_bind, Option.bind_some, stop]
    rcases ends with rfl | rfl
    · show (flowItems fuel rest).bind (fun parts => some (value :: parts.1, parts.2)) = _
      rw [if_pos rfl, Option.map_eq_bind]
      rfl
    · rfl

theorem flowItems_intercalate {items : List (List Char × Yaml)} (flow : ∀ item ∈ items, IsFlow item.1 item.2)
    (rest : List Char) {fuel : Nat} (enough : items.length < fuel) :
    flowItems fuel ([',', ' '].intercalate (items.map Prod.fst) ++ ']' :: rest) = some (items.map Prod.snd, rest) := by
  induction items generalizing fuel with
  | nil =>
    obtain ⟨fuel, rfl⟩ := Nat.exists_eq_succ_of_ne_zero (Nat.ne_zero_of_lt enough)
    rfl
  | cons item items ih =>
    obtain ⟨fuel, rfl⟩ := Nat.exists_eq_succ_of_ne_zero (Nat.ne_zero_of_lt enough)
    obtain ⟨first, others⟩ := List.forall_mem_cons.mp flow
    cases items with
    | nil =>
      rw [List.map_singleton, List.intercalate_singleton, flowItems_item first fuel (.inr rfl)]
      rfl
    | cons next more =>
      have onward := ih others (Nat.lt_of_succ_lt_succ enough)
      rw [List.map_cons] at onward
      rw [List.map_cons, List.map_cons, List.intercalate_cons_cons, List.append_assoc, List.append_assoc]
      rw [List.cons_append, List.singleton_append, flowItems_item first fuel (.inl rfl), flowItems_blank, onward]
      rfl

theorem length_le_intercalate {texts : List (List Char)} (solid : ∀ text ∈ texts, text ≠ []) :
    texts.length ≤ ([',', ' '].intercalate texts).length := by
  induction texts with
  | nil => exact Nat.le_refl 0
  | cons text texts ih =>
    obtain ⟨first, others⟩ := List.forall_mem_cons.mp solid
    have some_first := List.length_pos_of_ne_nil first
    cases texts with
    | nil =>
      rw [List.intercalate_singleton]
      exact some_first
    | cons next more =>
      have onward := ih others
      rw [List.intercalate_cons_cons, List.length_append, List.length_append, List.length_cons]
      omega

/-- The text of a flow sequence. -/
def flowSequence (texts : List (List Char)) : List Char := '[' :: ([',', ' '].intercalate texts ++ [']'])

theorem lineValue_sequence {items : List (List Char × Yaml)} (flow : ∀ item ∈ items, IsFlow item.1 item.2) :
    lineValue (flowSequence (items.map Prod.fst)) = some (.sequence (items.map Prod.snd)) := by
  have solid : ∀ text ∈ items.map Prod.fst, text ≠ [] := by
    intro text member
    obtain ⟨item, inside, rfl⟩ := List.mem_map.mp member
    obtain ⟨c, rest, same, -⟩ := (flow item inside).starts
    rw [same]
    exact List.cons_ne_nil c rest
  have enough : items.length < ([',', ' '].intercalate (items.map Prod.fst) ++ [']']).length + 1 := by
    have least := length_le_intercalate solid
    rw [List.length_map] at least
    rw [List.length_append]
    omega
  simp only [flowSequence, lineValue, flowItems_intercalate flow [] enough, Option.bind_eq_bind, Option.bind_some]
  rfl

theorem mem_flowSequence {texts : List (List Char)} {c : Char} (member : c ∈ flowSequence texts) :
    c ∈ ['[', ']', ',', ' '] ∨ ∃ text ∈ texts, c ∈ text := by
  have inside : c ∈ [',', ' '].intercalate texts → c ∈ [',', ' '] ∨ ∃ text ∈ texts, c ∈ text := by
    clear member
    induction texts with
    | nil =>
      intro absent
      cases absent
    | cons text texts ih =>
      cases texts with
      | nil =>
        rw [List.intercalate_singleton]
        exact fun here => .inr ⟨text, List.mem_cons_self, here⟩
      | cons next more =>
        rw [List.intercalate_cons_cons, List.mem_append, List.mem_append]
        rintro ((here | separator) | later)
        · exact .inr ⟨text, List.mem_cons_self, here⟩
        · exact .inl separator
        · exact (ih later).imp_right fun ⟨other, listed, here⟩ => ⟨other, List.mem_cons_of_mem text listed, here⟩
  rw [flowSequence, List.mem_cons, List.mem_append, List.mem_singleton] at member
  rcases member with rfl | between | rfl
  · exact .inl (by decide)
  · rcases inside between with separator | some_text
    · exact .inl (List.mem_of_mem_drop (i := 2) separator)
    · exact .inr some_text
  · exact .inl (by decide)

/-! ### Lines -/

theorem splitLines_append {line : List Char} (whole : ∀ c ∈ line, isBreak c = false) (pending rest : List Char) :
    splitLines pending (line ++ '\n' :: rest) = (pending.reverse ++ line) :: splitLines [] rest := by
  induction line generalizing pending with
  | nil =>
    rw [List.append_nil]
    rfl
  | cons c line ih =>
    obtain ⟨first, others⟩ := List.forall_mem_cons.mp whole
    have onward := ih others (c :: pending)
    rw [List.reverse_cons, List.append_assoc, List.singleton_append] at onward
    have inside : ¬(c = '\n' || c = '\r') = true := Bool.eq_false_iff.mp first
    have carriage : ∀ more, c = '\r' → line ++ '\n' :: rest ≠ '\n' :: more := by
      rintro more rfl
      exact absurd first (by decide)
    rw [List.cons_append, splitLines, if_neg inside, onward]
    exact carriage

/-- The lines of a text without its idle ones, line by line. -/
def content (line : List Char) : List Line := [Line.of line].filter fun line => !line.isIdle

theorem contentLines_written (lines : List (List Char)) (whole : ∀ line ∈ lines, ∀ c ∈ line, isBreak c = false) :
    contentLines (lines.flatMap (· ++ ['\n'])) = lines.flatMap content := by
  induction lines with
  | nil => rfl
  | cons line lines ih =>
    obtain ⟨first, others⟩ := List.forall_mem_cons.mp whole
    have onward := ih others
    unfold contentLines at onward ⊢
    rw [List.flatMap_cons, List.append_assoc, List.singleton_append, splitLines_append first, List.map_cons,
      List.flatMap_cons, ← onward]
    exact List.filter_append [Line.of line] _

/-- A line of a key. -/
theorem IsKey.content_indented {text : List Char} {key : Yaml} (named : IsKey text key) (indent : Nat)
    (suffix : List Char) : content (List.replicate indent ' ' ++ (text ++ suffix)) = [⟨indent, text ++ suffix⟩] := by
  obtain ⟨first, rest, rfl⟩ := List.exists_cons_of_ne_nil named.ne_nil
  have starts := named.starts
  have solid : isBlankChar first = false := by
    cases rest with
    | nil =>
      simp only [startsKey, Bool.or_eq_true, decide_eq_true_eq] at starts
      rcases starts with ((rfl | rfl) | rfl) | starts
      · decide
      · decide
      · decide
      · exact (Bool.not_eq_true' _).mp ((Bool.and_eq_true _ _).mp starts).2
    | cons next more => exact (Bool.not_eq_true' _).mp ((Bool.and_eq_true _ _).mp starts).2
  have number_sign : first ≠ '#' := by
    rintro rfl
    cases rest with
    | nil => exact absurd starts (by decide)
    | cons next more => simp [startsKey, startsPlain, indicators] at starts
  have space : (decide (first = ' ')) = false := by
    rw [isBlankChar, Bool.or_eq_false_iff] at solid
    exact solid.1
  have spaces : ∀ c ∈ List.replicate indent ' ', (decide (c = ' ')) = true := by
    intro c member
    exact decide_eq_true (List.eq_of_mem_replicate member)
  have shape : Line.of (List.replicate indent ' ' ++ (first :: rest ++ suffix)) = ⟨indent, first :: rest ++ suffix⟩ := by
    unfold Line.of
    rw [List.takeWhile_append_of_pos spaces, List.dropWhile_append_of_pos spaces, List.cons_append]
    rw [List.takeWhile_cons_of_neg (by simp [space]), List.dropWhile_cons_of_neg (by simp [space])]
    simp
  have busy : (⟨indent, first :: rest ++ suffix⟩ : Line).isIdle = false := by
    simp [Line.isIdle, solid, number_sign]
  rw [content, shape, List.filter_cons_of_pos (by rw [busy]; rfl), List.filter_nil]

theorem IsKey.whole {text : List Char} {key : Yaml} (named : IsKey text key) : ∀ c ∈ text, isBreak c = false := by
  intro c member
  have printable := List.all_eq_true.mp named.printable c member
  apply Bool.eq_false_iff.mpr
  intro breaks
  rw [isBreak, Bool.or_eq_true, decide_eq_true_eq, decide_eq_true_eq] at breaks
  rcases breaks with rfl | rfl
  · exact absurd printable (by decide)
  · exact absurd printable (by decide)

/-! ### Writing -/

/-- The lines, read in a block with the given indentation, are these entries. -/
def Writes (indent : Nat) (lines : List (List Char)) (entries : List (Yaml × Yaml)) : Prop :=
  (∀ line ∈ lines, ∀ c ∈ line, isBreak c = false) ∧
    (∀ line ∈ (lines.flatMap content).head?, line.indent = indent) ∧
    ∀ left others final, ReadsBlock indent left others final →
      ReadsBlock indent (lines.flatMap content ++ left) (entries ++ others) final

namespace Writes

variable {indent : Nat}

theorem nil : Writes indent [] [] :=
  ⟨(fun _ member => nomatch member), (fun _ member => nomatch member), fun _ _ _ onward => onward⟩

theorem append {first second : List (List Char)} {entries others : List (Yaml × Yaml)}
    (writes : Writes indent first entries) (onward : Writes indent second others) :
    Writes indent (first ++ second) (entries ++ others) := by
  refine ⟨?_, ?_, ?_⟩
  · intro line member
    rcases List.mem_append.mp member with inside | inside
    · exact writes.1 line inside
    · exact onward.1 line inside
  · rw [List.flatMap_append]
    have starts := writes.2.1
    cases shown : first.flatMap content with
    | nil => exact onward.2.1
    | cons line rest =>
      rw [shown] at starts
      exact starts
  · intro left more final reads
    rw [List.flatMap_append, List.append_assoc, List.append_assoc]
    exact writes.2.2 _ _ _ (onward.2.2 _ _ _ reads)

theorem blank : Writes indent [[]] [] :=
  ⟨by simp, (fun _ member => nomatch member), fun _ _ _ onward => onward⟩

theorem scalar {text valueText : List Char} {key value : Yaml} (named : IsKey text key)
    (solid : skipBlank valueText = valueText) (given : valueText ≠ []) (valued : lineValue valueText = some value)
    (whole : ∀ c ∈ valueText, isBreak c = false) :
    Writes indent [List.replicate indent ' ' ++ (text ++ ':' :: ' ' :: valueText)] [(key, value)] := by
  have shown : [List.replicate indent ' ' ++ (text ++ ':' :: ' ' :: valueText)].flatMap content =
      [⟨indent, text ++ ':' :: ' ' :: valueText⟩] := by
    rw [List.flatMap_singleton]
    exact named.content_indented indent _
  refine ⟨?_, ?_, ?_⟩
  · intro line member c inside
    rw [List.mem_singleton.mp member, List.mem_append, List.mem_append, List.mem_cons, List.mem_cons] at inside
    rcases inside with space | inText | rfl | rfl | inValue
    · rw [List.eq_of_mem_replicate space]
      decide
    · exact named.whole c inText
    · decide
    · decide
    · exact whole c inValue
  · rw [shown]
    rintro line ⟨⟩
    rfl
  · intro left others final reads
    rw [shown]
    have keyed := named.lineKey_value valueText
    rw [solid] at keyed
    exact .scalar keyed given valued reads

theorem flow {text valueText : List Char} {key value : Yaml} (named : IsKey text key) (isFlow : IsFlow valueText value) :
    Writes indent [List.replicate indent ' ' ++ (text ++ ':' :: ' ' :: valueText)] [(key, value)] := by
  obtain ⟨c, rest, rfl, solid, -⟩ := isFlow.starts
  exact scalar named (List.dropWhile_cons_of_neg (Bool.eq_false_iff.mp solid)) (List.cons_ne_nil c rest) isFlow.line
    isFlow.whole

theorem sequence {text : List Char} {key : Yaml} {items : List (List Char × Yaml)} (named : IsKey text key)
    (flow : ∀ item ∈ items, IsFlow item.1 item.2) :
    Writes indent [List.replicate indent ' ' ++ (text ++ ':' :: ' ' :: flowSequence (items.map Prod.fst))]
      [(key, .sequence (items.map Prod.snd))] := by
  apply scalar named rfl (List.cons_ne_nil _ _) (lineValue_sequence flow)
  intro c member
  rcases mem_flowSequence member with special | ⟨text, listed, inside⟩
  · have unbroken : ∀ c ∈ ['[', ']', ',', ' '], isBreak c = false := List.all_iff_forall_prop.mp (by decide)
    exact unbroken c special
  · obtain ⟨item, some_item, rfl⟩ := List.mem_map.mp listed
    exact (flow item some_item).whole c inside

theorem block {deeper : Nat} {text : List Char} {key : Yaml} {inner : List (List Char)} {entries : List (Yaml × Yaml)}
    (named : IsKey text key) (less : indent < deeper) (below : Writes deeper inner entries)
    (distinct : keysDiffer entries = true) :
    Writes indent ((List.replicate indent ' ' ++ (text ++ [':'])) :: inner) [(key, blockNode entries)] := by
  have shown : ((List.replicate indent ' ' ++ (text ++ [':'])) :: inner).flatMap content =
      ⟨indent, text ++ [':']⟩ :: inner.flatMap content := by
    rw [List.flatMap_cons, named.content_indented indent]
    rfl
  refine ⟨?_, ?_, ?_⟩
  · intro line member c inside
    rcases List.mem_cons.mp member with rfl | later
    · rw [List.mem_append, List.mem_append, List.mem_singleton] at inside
      rcases inside with space | inText | rfl
      · rw [List.eq_of_mem_replicate space]
        decide
      · exact named.whole c inText
      · decide
    · exact below.1 line later c inside
  · rw [shown]
    rintro line ⟨⟩
    rfl
  · intro left others final reads
    rw [shown]
    apply ReadsBlock.block named.lineKey_alone less below.2.1 ?_ distinct reads
    intro left outer
    have within := below.2.2 left [] left (.done outer)
    rw [List.append_nil] at within
    exact within

/-- Items that are written one after another. -/
theorem mapM {α β : Type} {items : List α} {lines : α → Option β} {results : List β} {shown : β → List (List Char)}
    {node : α → Yaml × Yaml} (written : items.mapM lines = some results)
    (each : ∀ item ∈ items, ∀ result, lines item = some result → Writes indent (shown result) [node item]) :
    Writes indent (results.flatMap shown) (items.map node) := by
  induction items generalizing results with
  | nil =>
    cases written
    exact nil
  | cons item items ih =>
    obtain ⟨first, others⟩ := List.forall_mem_cons.mp each
    rw [List.mapM_cons, Option.bind_eq_bind, Option.bind_eq_some_iff] at written
    obtain ⟨result, one, written⟩ := written
    rw [Option.bind_eq_bind, Option.bind_eq_some_iff] at written
    obtain ⟨more, rest, same⟩ := written
    cases same
    rw [List.flatMap_cons, List.map_cons]
    exact (first result one).append (ih rest others)

end Writes

theorem sameKey_comm (first second : Yaml) : sameKey first second = sameKey second first := by
  cases first <;> cases second <;> simp only [sameKey, Bool.beq_comm]

theorem keysDiffer_iff {entries : List (Yaml × Yaml)} :
    keysDiffer entries = true ↔ (entries.map Prod.fst).Pairwise fun first second => sameKey first second = false := by
  induction entries with
  | nil => simp [keysDiffer]
  | cons entry entries ih =>
    rw [List.map_cons, List.pairwise_cons, ← ih, keysDiffer, Bool.and_eq_true, List.all_eq_true, List.forall_mem_map]
    simp only [Bool.not_eq_true']

theorem keysDiffer_of_perm {entries others : List (Yaml × Yaml)} (same : entries.Perm others) :
    keysDiffer entries = true ↔ keysDiffer others = true := by
  rw [keysDiffer_iff, keysDiffer_iff]
  apply (same.map Prod.fst).pairwise_iff
  intro first second differ
  rw [sameKey_comm]
  exact differ

theorem intercalate_end {lines : List (List Char)} (some_line : lines ≠ []) :
    ['\n'].intercalate lines ++ ['\n'] = lines.flatMap (· ++ ['\n']) := by
  induction lines with
  | nil => exact absurd rfl some_line
  | cons line lines ih =>
    cases lines with
    | nil => simp
    | cons next more =>
      rw [List.intercalate_cons_cons, List.append_assoc, List.append_assoc, ih (List.cons_ne_nil next more)]
      exact (List.append_assoc line ['\n'] _).symm

end Yaml

open Yaml in
/-- A text whose lines write a document is read as that document. -/
theorem readYaml_of_writes {lines : List (List Char)} {entries : List (Yaml × Yaml)} (some_line : lines ≠ [])
    (writes : Writes 0 lines entries) (distinct : keysDiffer entries = true) :
    readYaml (String.ofList (['\n'].intercalate lines ++ ['\n'])) = some (.mapping entries) := by
  have reads : ReadsBlock 0 (lines.flatMap content) entries [] := by
    have whole := writes.2.2 [] [] [] (.done (fun _ member => nomatch member))
    rw [List.append_nil, List.append_nil] at whole
    exact whole
  unfold readYaml
  rw [String.toList_ofList, intercalate_end some_line, contentLines_written lines writes.1]
  simp only [reads.readEntries_eq (Nat.lt_succ_self _), Option.bind_eq_bind, Option.bind_some, if_true, mappingOf, distinct]

end TelemetryFabric.Library
