import TelemetryFabric.Library.Ascii
import Mathlib.Data.List.Basic
import Mathlib.Data.List.TakeWhile

/-!
The framing of a message of HTTP/1.1 over items of any kind, bytes or characters: lines that end with
a carriage return and a line feed, an empty line behind them, and a body. A message whose lines have no
carriage return is cut back into its lines and its body.
-/

namespace TelemetryFabric.Library

variable {α : Type} [DecidableEq α]

section Framing

variable (cr lf : α)

/-- What is before and behind the first empty line. -/
def splitHead : List α → Option (List α × List α)
  | [] => none
  | item :: rest =>
      if (item :: rest).take 4 = [cr, lf, cr, lf] then some ([], rest.drop 3)
      else (splitHead rest).map fun parts => (item :: parts.1, parts.2)

def consFirst (item : α) : List (List α) → List (List α)
  | [] => [[item]]
  | line :: more => (item :: line) :: more

/-- Split at every line end. -/
def splitLines : List α → List (List α)
  | [] => [[]]
  | [item] => [[item]]
  | item :: next :: rest =>
      if item = cr ∧ next = lf then [] :: splitLines rest else consFirst item (splitLines (next :: rest))

/-- Lines with a line end between them. -/
def joinLines : List (List α) → List α
  | [] => []
  | [line] => line
  | line :: more => line ++ cr :: lf :: joinLines more

/-- Each line with its end, an empty line, and the body. -/
def message (lines : List (List α)) (body : List α) : List α :=
  lines.flatMap (fun line => line ++ [cr, lf]) ++ cr :: lf :: body

/-- A line that ends where it is to end. -/
def IsLine (line : List α) : Prop := line ≠ [] ∧ cr ∉ line

end Framing

/-- Cut at the first separator. -/
def cutAt (separator : α) (text : List α) : Option (List α × List α) :=
  match text.dropWhile (· != separator) with
  | _ :: rest => some (text.takeWhile (· != separator), rest)
  | [] => none

theorem cutAt_append {separator : α} {first : List α} (absent : separator ∉ first) (rest : List α) :
    cutAt separator (first ++ separator :: rest) = some (first, rest) := by
  have other : ∀ item ∈ first, (item != separator) = true := by
    intro item member
    rw [bne_iff_ne]
    intro same
    exact absent (same ▸ member)
  have stops : ¬ (separator != separator) = true := by simp
  have behind : (first ++ separator :: rest).dropWhile (· != separator) = separator :: rest := by
    rw [List.dropWhile_append_of_pos other]
    exact List.dropWhile_cons_of_neg (p := fun item => item != separator) stops
  have before : (first ++ separator :: rest).takeWhile (· != separator) = first := by
    rw [List.takeWhile_append_of_pos other]
    have stop : (separator :: rest).takeWhile (· != separator) = [] :=
      List.takeWhile_cons_of_neg (p := fun item => item != separator) stops
    rw [stop, List.append_nil]
  simp only [cutAt, behind, before]

section Framing

variable {cr lf : α}

/-! ### Beginnings of a stream -/

theorem splitHead_short {text : List α} (short : text.length < 4) : splitHead cr lf text = none := by
  induction text with
  | nil => rfl
  | cons item rest ih =>
    rw [splitHead, if_neg, ih]
    · rfl
    · rw [List.length_cons] at short
      omega
    · intro same
      have length := congrArg List.length same
      rw [List.length_take, List.length_cons, List.length_cons, List.length_cons, List.length_cons, List.length_cons,
        List.length_nil] at length
      rw [List.length_cons] at short
      omega

/-- A beginning is cut where the stream is, once it reaches behind the empty line. -/
theorem splitHead_take (stream : List α) (n : Nat) :
    splitHead cr lf (stream.take n) = (splitHead cr lf stream).bind fun parts =>
      if parts.1.length + 4 ≤ n then some (parts.1, parts.2.take (n - (parts.1.length + 4))) else none := by
  induction stream generalizing n with
  | nil =>
    rw [List.take_nil]
    rfl
  | cons item rest ih =>
    by_cases short : n < 4
    · have none : splitHead cr lf ((item :: rest).take n) = none := by
        apply splitHead_short
        rw [List.length_take]
        omega
      rw [none]
      symm
      rw [Option.bind_eq_none_iff]
      intro parts _
      rw [if_neg (by omega)]
    · obtain ⟨m, rfl⟩ : ∃ m, n = m + 1 := ⟨n - 1, by omega⟩
      have same : (item :: rest.take m).take 4 = (item :: rest).take 4 := by
        rw [← List.take_succ_cons, List.take_take, Nat.min_eq_left (by omega)]
      rw [List.take_succ_cons, splitHead, splitHead, same]
      split_ifs with here
      · rw [Option.bind_some]
        rw [if_pos (by simp only [List.length_nil]; omega), List.drop_take]
        simp only [List.length_nil, Nat.zero_add]
        congr 3
      · rw [ih m]
        cases splitHead cr lf rest with
        | none => rfl
        | some parts =>
          rw [Option.bind_some, Option.map_some, Option.bind_some]
          simp only [List.length_cons]
          by_cases reaches : parts.1.length + 4 ≤ m
          · have same : m + 1 - (parts.1.length + 1 + 4) = m - (parts.1.length + 4) := by omega
            rw [if_pos reaches, if_pos (by omega), Option.map_some, same]
          · rw [if_neg reaches, if_neg (by omega)]
            rfl

/-- What is before and behind, with the empty line between. -/
theorem eq_of_splitHead {stream head body : List α} (split : splitHead cr lf stream = some (head, body)) :
    stream = head ++ [cr, lf, cr, lf] ++ body := by
  induction stream generalizing head with
  | nil => cases split
  | cons item rest ih =>
    rw [splitHead] at split
    split_ifs at split with here
    · cases split
      rw [List.nil_append, ← here]
      cases rest with
      | nil => cases here
      | cons second rest =>
        cases rest with
        | nil => cases here
        | cons third rest =>
          cases rest with
          | nil => cases here
          | cons fourth rest => rfl
    · obtain ⟨parts, found, same⟩ := Option.map_eq_some_iff.mp split
      cases same
      rw [ih found]
      rfl

/-! ### Messages -/

/-- A line without a carriage return goes to what is before the empty line. -/
theorem splitHead_append {line : List α} (plain : cr ∉ line) (rest : List α) :
    splitHead cr lf (line ++ rest) = (splitHead cr lf rest).map fun parts => (line ++ parts.1, parts.2) := by
  induction line with
  | nil =>
    rw [List.nil_append]
    exact Option.map_id'.symm
  | cons item more ih =>
    have other : ¬ (item :: (more ++ rest)).take 4 = [cr, lf, cr, lf] := by
      intro same
      rw [List.take_succ_cons] at same
      have first : item = cr := (List.cons.inj same).1
      exact plain (first ▸ List.mem_cons_self)
    rw [List.cons_append, splitHead, if_neg other, ih fun member => plain (List.mem_cons_of_mem _ member),
      Option.map_map]
    rfl

/-- A line end in front of another line does too. -/
theorem splitHead_lineEnd (different : cr ≠ lf) {rest : List α} (onward : rest.head? ≠ some cr) :
    splitHead cr lf (cr :: lf :: rest) = (splitHead cr lf rest).map fun parts => (cr :: lf :: parts.1, parts.2) := by
  have first : ¬ (cr :: lf :: rest).take 4 = [cr, lf, cr, lf] := by
    intro same
    rw [List.take_succ_cons, List.take_succ_cons] at same
    have later : rest.take 2 = [cr, lf] := (List.cons.inj (List.cons.inj same).2).2
    cases rest with
    | nil => cases later
    | cons item rest =>
      rw [List.take_succ_cons] at later
      exact onward (congrArg some (List.cons.inj later).1)
  have second : ¬ (lf :: rest).take 4 = [cr, lf, cr, lf] := by
    intro same
    rw [List.take_succ_cons] at same
    exact different (List.cons.inj same).1.symm
  rw [splitHead, if_neg first, splitHead, if_neg second, Option.map_map]
  rfl

omit [DecidableEq α] in
theorem head?_joinLines {line : List α} {more : List (List α)} {rest : List α} (isLine : IsLine cr line) :
    (joinLines cr lf (line :: more) ++ rest).head? ≠ some cr := by
  obtain ⟨given, plain⟩ := isLine
  cases line with
  | nil => exact absurd rfl given
  | cons item line =>
    have front : (joinLines cr lf ((item :: line) :: more) ++ rest).head? = some item := by
      cases more with
      | nil => rfl
      | cons next more => rfl
    rw [front]
    intro same
    exact plain (Option.some.inj same ▸ List.mem_cons_self)

omit [DecidableEq α] in
theorem message_eq {lines : List (List α)} (given : lines ≠ []) (body : List α) :
    message cr lf lines body = joinLines cr lf lines ++ cr :: lf :: cr :: lf :: body := by
  induction lines with
  | nil => exact absurd rfl given
  | cons line more ih =>
    cases more with
    | nil =>
      simp only [message, List.flatMap_cons, List.flatMap_nil, joinLines, List.append_assoc, List.append_nil,
        List.cons_append, List.nil_append]
    | cons next more =>
      have onward := ih (List.cons_ne_nil next more)
      unfold message at onward ⊢
      rw [List.flatMap_cons, List.append_assoc, onward]
      simp only [joinLines, List.append_assoc, List.cons_append, List.nil_append]

/-- A message is cut into its lines and its body. -/
theorem splitHead_message (different : cr ≠ lf) {lines : List (List α)} (given : lines ≠ [])
    (each : ∀ line ∈ lines, IsLine cr line) (body : List α) :
    splitHead cr lf (message cr lf lines body) = some (joinLines cr lf lines, body) := by
  rw [message_eq given]
  induction lines with
  | nil => exact absurd rfl given
  | cons line more ih =>
    have first := each line List.mem_cons_self
    cases more with
    | nil =>
      have here : splitHead cr lf (cr :: lf :: cr :: lf :: body) = some ([], body) := by
        rw [splitHead, if_pos (show (cr :: lf :: cr :: lf :: body).take 4 = [cr, lf, cr, lf] from rfl)]
        rfl
      rw [joinLines, splitHead_append first.2, here, Option.map_some, List.append_nil]
    | cons next more =>
      have second := each next (List.mem_cons_of_mem _ List.mem_cons_self)
      have onward := ih (List.cons_ne_nil next more) fun other member => each other (List.mem_cons_of_mem _ member)
      rw [joinLines, List.append_assoc, splitHead_append first.2, List.cons_append, List.cons_append,
        splitHead_lineEnd different (head?_joinLines second), onward]
      · rfl
      · exact List.cons_ne_nil next more

theorem splitLines_cons {item : α} (other : item ≠ cr) {rest : List α} (given : rest ≠ []) :
    splitLines cr lf (item :: rest) = consFirst item (splitLines cr lf rest) := by
  cases rest with
  | nil => exact absurd rfl given
  | cons next rest => rw [splitLines, if_neg fun both => other both.1]

theorem splitLines_line {line : List α} (plain : cr ∉ line) : splitLines cr lf line = [line] := by
  induction line with
  | nil => rfl
  | cons item more ih =>
    cases more with
    | nil => rfl
    | cons next more =>
      rw [splitLines_cons (ne_of_mem_of_not_mem List.mem_cons_self plain) (List.cons_ne_nil next more),
        ih fun member => plain (List.mem_cons_of_mem _ member)]
      rfl

theorem splitLines_lineEnd {line : List α} (plain : cr ∉ line) (rest : List α) :
    splitLines cr lf (line ++ cr :: lf :: rest) = line :: splitLines cr lf rest := by
  induction line with
  | nil => rw [List.nil_append, splitLines, if_pos ⟨rfl, rfl⟩]
  | cons item more ih =>
    have given : more ++ cr :: lf :: rest ≠ [] := by simp
    rw [List.cons_append, splitLines_cons (ne_of_mem_of_not_mem List.mem_cons_self plain) given,
      ih fun member => plain (List.mem_cons_of_mem _ member)]
    rfl

/-- Joined lines are split back. -/
theorem splitLines_joinLines {lines : List (List α)} (given : lines ≠ []) (each : ∀ line ∈ lines, IsLine cr line) :
    splitLines cr lf (joinLines cr lf lines) = lines := by
  induction lines with
  | nil => exact absurd rfl given
  | cons line more ih =>
    have first := each line List.mem_cons_self
    cases more with
    | nil => rw [joinLines, splitLines_line first.2]
    | cons next more =>
      rw [joinLines, splitLines_lineEnd first.2,
        ih (List.cons_ne_nil next more) fun other member => each other (List.mem_cons_of_mem _ member)]
      exact List.cons_ne_nil next more

end Framing

/-! ### Bytes and characters -/

theorem utf8_ofList_append (first second : List Char) :
    utf8 (String.ofList (first ++ second)) = utf8 (String.ofList first) ++ utf8 (String.ofList second) := by
  induction first with
  | nil => rfl
  | cons c rest ih => rw [List.cons_append, utf8_ofList_cons, utf8_ofList_cons, ih, List.append_assoc]

/-- A byte of a character is an ASCII byte only where it is the character. -/
theorem toNat_of_mem_utf8EncodeChar {c : Char} {byte : UInt8} (member : byte ∈ String.utf8EncodeChar c)
    (ascii : byte.toNat < 128) : c.toNat = byte.toNat := by
  have value : ∀ n, (UInt8.ofNat n).toNat = n % 256 := fun n => UInt8.toNat_ofNat'
  have code : c.toNat = c.val.toNat := rfl
  unfold String.utf8EncodeChar at member
  simp only [] at member
  split_ifs at member with one two three
  · rw [List.mem_singleton] at member
    rw [member, value] at ascii ⊢
    omega
  all_goals
    simp only [List.mem_cons, List.not_mem_nil, or_false] at member
    exfalso
    rcases member with same | member
    · rw [same, value] at ascii
      omega
  · rw [member, value] at ascii
    omega
  all_goals
    rcases member with same | member
    · rw [same, value] at ascii
      omega
  · rw [member, value] at ascii
    omega
  · rcases member with same | same
    · rw [same, value] at ascii
      omega
    · rw [same, value] at ascii
      omega

theorem mem_utf8_iff {text : String} {c : Char} (ascii : isAscii c = true) :
    UInt8.ofNat c.toNat ∈ utf8 text ↔ c ∈ text.toList := by
  have small : c.toNat < 128 := by simpa [isAscii] using ascii
  have value : (UInt8.ofNat c.toNat).toNat = c.toNat := by
    rw [UInt8.toNat_ofNat']
    omega
  have listed : ∀ characters : List Char, UInt8.ofNat c.toNat ∈ utf8 (String.ofList characters) ↔ c ∈ characters := by
    intro characters
    induction characters with
    | nil => exact iff_of_false List.not_mem_nil List.not_mem_nil
    | cons other rest ih =>
      rw [utf8_ofList_cons, List.mem_append, List.mem_cons, ih]
      apply or_congr_left
      constructor
      · intro member
        have same := toNat_of_mem_utf8EncodeChar member (by omega)
        rw [value] at same
        exact Char.toNat_inj.mp same.symm
      · intro same
        rw [← same, utf8EncodeChar_of_ascii ascii]
        exact List.mem_singleton_self _
  rw [← listed text.toList, String.ofList_toList]

/-- The bytes of a message of characters. -/
theorem utf8_message (lines : List (List Char)) (body : List Char) :
    utf8 (String.ofList (message '\r' '\n' lines body)) =
      message 13 10 (lines.map fun line => utf8 (String.ofList line)) (utf8 (String.ofList body)) := by
  have lineEnd : ∀ rest, utf8 (String.ofList ('\r' :: '\n' :: rest)) = 13 :: 10 :: utf8 (String.ofList rest) := by
    intro rest
    rw [utf8_ofList_cons, utf8_ofList_cons]
    rfl
  unfold message
  rw [utf8_ofList_append, lineEnd]
  congr 1
  induction lines with
  | nil => rfl
  | cons line more ih =>
    rw [List.flatMap_cons, utf8_ofList_append, utf8_ofList_append, ih, lineEnd, List.map_cons, List.flatMap_cons]
    rfl

end TelemetryFabric.Library
