import Mathlib.Data.List.Basic
import Mathlib.Order.Nat

/-! A stream that arrives in chunks and is parsed again after each of them, until the parser has
decided, the buffer is longer than a limit, or the stream has ended. -/

namespace TelemetryFabric.Library

variable {α β : Type}

section Reading

variable (parse : List α → Option β) (limit : Nat) (tooLong ended : β)

/-- Read chunks behind what is in the buffer. -/
def readChunks : List α → List (List α) → β
  | _, [] => ended
  | buffer, chunk :: rest =>
      let buffer := buffer ++ chunk
      match parse buffer with
      | some result => result
      | none => if limit < buffer.length then tooLong else readChunks buffer rest

end Reading

/-- A way to cut a stream into chunks that are not empty and not longer than the given size. -/
structure Cut (size : Nat) (stream : List α) (chunks : List (List α)) : Prop where
  whole : chunks.flatten = stream
  chunk : ∀ chunk ∈ chunks, chunk ≠ [] ∧ chunk.length ≤ size

/-- The parser decides as soon as it sees so many items of the stream, and not before. -/
structure DecidesAt (parse : List α → Option β) (stream : List α) (length : Nat) (result : β) : Prop where
  within : length ≤ stream.length
  before : ∀ n < length, parse (stream.take n) = none
  after : ∀ n, length ≤ n → parse (stream.take n) = some result

/-- Some chunk of a cut ends above the limit and below the given length. -/
def EndsBetween (limit length : Nat) (chunks : List (List α)) : Prop :=
  ∃ first rest, chunks = first ++ rest ∧ limit < first.flatten.length ∧ first.flatten.length < length

section Decided

variable {parse : List α → Option β} {limit : Nat} {tooLong ended : β} {stream : List α}

theorem take_of_append {buffer chunk : List α} {rest : List (List α)}
    (whole : buffer ++ (chunk :: rest).flatten = stream) :
    buffer ++ chunk = stream.take (buffer ++ chunk).length ∧ buffer ++ chunk ++ rest.flatten = stream := by
  rw [List.flatten_cons, ← List.append_assoc] at whole
  rw [← whole, List.take_left]
  exact ⟨rfl, rfl⟩

/-- While the parser has not decided, only the length of the buffer counts. -/
theorem readChunks_undecided (undecided : ∀ n, parse (stream.take n) = none) {buffer : List α}
    {chunks : List (List α)} (whole : buffer ++ chunks.flatten = stream) (short : buffer.length ≤ limit)
    (given : ∀ chunk ∈ chunks, chunk ≠ []) :
    readChunks parse limit tooLong ended buffer chunks = if limit < stream.length then tooLong else ended := by
  induction chunks generalizing buffer with
  | nil =>
    rw [List.flatten_nil, List.append_nil] at whole
    rw [← whole, if_neg (not_lt.mpr short)]
    rfl
  | cons chunk rest ih =>
    obtain ⟨taken, onward⟩ := take_of_append whole
    have still : parse (buffer ++ chunk) = none := by
      rw [taken]
      exact undecided _
    have total := congrArg List.length onward
    rw [List.length_append] at total
    simp only [readChunks, still]
    by_cases long : limit < (buffer ++ chunk).length
    · rw [if_pos long, if_pos (by omega)]
    · rw [if_neg long]
      exact ih onward (by omega) fun other member => given other (List.mem_cons_of_mem _ member)

/-- What is not decided is read alike in every cut. -/
theorem read_same_of_undecided (undecided : ∀ n, parse (stream.take n) = none) {size : Nat}
    {first second : List (List α)} (firstCut : Cut size stream first) (secondCut : Cut size stream second) :
    readChunks parse limit tooLong ended [] first = readChunks parse limit tooLong ended [] second := by
  have empty : ([] : List α).length ≤ limit := Nat.zero_le limit
  rw [readChunks_undecided undecided firstCut.whole empty fun chunk member => (firstCut.chunk chunk member).1,
    readChunks_undecided undecided secondCut.whole empty fun chunk member => (secondCut.chunk chunk member).1]

variable {length : Nat} {result : β}

/-- A chunk that ends above the limit while the parser has not decided is the last one read. -/
theorem readChunks_tooLong (decides : DecidesAt parse stream length result) {buffer : List α}
    {chunks first rest : List (List α)} (whole : buffer ++ chunks.flatten = stream) (split : chunks = first ++ rest)
    (short : buffer.length ≤ limit) (above : limit < (buffer ++ first.flatten).length)
    (below : (buffer ++ first.flatten).length < length) :
    readChunks parse limit tooLong ended buffer chunks = tooLong := by
  induction first generalizing buffer chunks with
  | nil =>
    rw [List.flatten_nil, List.append_nil] at above
    omega
  | cons chunk more ih =>
    rw [split, List.cons_append] at whole ⊢
    obtain ⟨taken, onward⟩ := take_of_append whole
    rw [List.flatten_cons, ← List.append_assoc] at above below
    have sooner : (buffer ++ chunk).length < length := by
      rw [List.length_append] at below
      omega
    have still : parse (buffer ++ chunk) = none := by
      rw [taken]
      exact decides.before _ sooner
    simp only [readChunks, still]
    by_cases long : limit < (buffer ++ chunk).length
    · rw [if_pos long]
    · rw [if_neg long]
      exact ih onward rfl (by omega) above below

/-- Without such a chunk the parser decides. -/
theorem readChunks_decided (decides : DecidesAt parse stream length result) {buffer : List α}
    {chunks : List (List α)} (whole : buffer ++ chunks.flatten = stream) (sooner : buffer.length < length)
    (apart : ∀ first rest, chunks = first ++ rest → limit < (buffer ++ first.flatten).length →
      length ≤ (buffer ++ first.flatten).length) :
    readChunks parse limit tooLong ended buffer chunks = result := by
  induction chunks generalizing buffer with
  | nil =>
    have within := decides.within
    rw [List.flatten_nil, List.append_nil] at whole
    rw [← whole] at within
    omega
  | cons chunk rest ih =>
    obtain ⟨taken, onward⟩ := take_of_append whole
    by_cases now : length ≤ (buffer ++ chunk).length
    · have decided : parse (buffer ++ chunk) = some result := by
        rw [taken]
        exact decides.after _ now
      simp only [readChunks, decided]
    · have still : parse (buffer ++ chunk) = none := by
        rw [taken]
        exact decides.before _ (not_le.mp now)
      have within : ¬ limit < (buffer ++ chunk).length := by
        intro long
        have first := apart [chunk] rest rfl
        rw [List.flatten_singleton] at first
        exact now (first long)
      simp only [readChunks, still]
      rw [if_neg within]
      apply ih onward (not_le.mp now)
      intro first later split
      have longer := apart (chunk :: first) later (congrArg (List.cons chunk) split)
      rw [List.flatten_cons, ← List.append_assoc] at longer
      exact longer

/-! ### Two cuts -/

theorem cut_singletons (part : List α) {size : Nat} (room : 0 < size) :
    (part.map fun item => [item]).flatten = part ∧
      ∀ chunk ∈ part.map (fun item => [item]), chunk ≠ [] ∧ chunk.length ≤ size := by
  constructor
  · induction part with
    | nil => rfl
    | cons item rest ih => rw [List.map_cons, List.flatten_cons, ih]; rfl
  · intro chunk member
    obtain ⟨item, -, same⟩ := List.mem_map.mp member
    rw [← same]
    exact ⟨List.cons_ne_nil _ _, room⟩

/-- Item by item, some chunk ends just above the limit. -/
theorem exists_tooLong (decides : DecidesAt parse stream length result) {size : Nat} (room : 0 < size)
    (above : limit + 1 < length) :
    ∃ chunks, Cut size stream chunks ∧ readChunks parse limit tooLong ended [] chunks = tooLong := by
  obtain ⟨whole, chunk⟩ := cut_singletons stream room
  have within := decides.within
  obtain ⟨front, -⟩ := cut_singletons (stream.take (limit + 1)) room
  have counted : ((stream.take (limit + 1)).map fun item => [item]).flatten.length = limit + 1 := by
    rw [front, List.length_take]
    omega
  have split : stream.map (fun item => [item]) = (stream.take (limit + 1)).map (fun item => [item]) ++
      (stream.drop (limit + 1)).map fun item => [item] := by
    rw [← List.map_append, List.take_append_drop]
  refine ⟨_, ⟨whole, chunk⟩, readChunks_tooLong decides whole split (Nat.zero_le _) ?_ ?_⟩
  · rw [List.nil_append, counted]
    omega
  · rw [List.nil_append, counted]
    exact above

/-- One chunk that reaches from the limit to where the parser decides jumps over the check. -/
theorem exists_decided (decides : DecidesAt parse stream length result) {size : Nat} (above : limit < length)
    (reach : length ≤ limit + size) :
    ∃ chunks, Cut size stream chunks ∧ readChunks parse limit tooLong ended [] chunks = result := by
  have room : 0 < size := by omega
  have within := decides.within
  obtain ⟨front, single⟩ := cut_singletons (stream.take limit) room
  obtain ⟨back, later⟩ := cut_singletons (stream.drop length) room
  have size_front : (stream.take limit).length = limit := by
    rw [List.length_take]
    omega
  have size_jump : ((stream.take length).drop limit).length = length - limit := by
    rw [List.length_drop, List.length_take]
    omega
  have whole : ((stream.take limit).map (fun item => [item]) ++ [(stream.take length).drop limit] ++
      (stream.drop length).map fun item => [item]).flatten = stream := by
    rw [List.flatten_append, List.flatten_append, front, back, List.flatten_singleton]
    have joined : stream.take limit ++ (stream.take length).drop limit = stream.take length := by
      have inner : stream.take limit = (stream.take length).take limit := by
        rw [List.take_take, Nat.min_eq_left (Nat.le_of_lt above)]
      rw [inner, List.take_append_drop]
    rw [joined, List.take_append_drop]
  refine ⟨_, ⟨whole, ?_⟩, readChunks_decided decides whole (show 0 < length by omega) ?_⟩
  · intro chunk member
    rw [List.append_assoc, List.mem_append, List.mem_append] at member
    rcases member with before | jump | behind
    · exact single chunk before
    · rw [List.mem_singleton.mp jump]
      constructor
      · intro none
        rw [none, List.length_nil] at size_jump
        omega
      · omega
    · exact later chunk behind
  · intro first rest split long
    rw [List.nil_append] at long ⊢
    by_contra between
    rw [not_le] at between
    -- a beginning of the cut that is longer than the limit has the long chunk in it
    have count := congrArg List.length split
    rw [List.append_assoc] at split
    rcases List.append_eq_append_iff.mp split with ⟨more, grown, remains⟩ | ⟨less, shrunk, remains⟩
    · cases more with
      | nil =>
        rw [grown, List.append_nil, front] at long
        omega
      | cons chunk more =>
        rw [List.singleton_append, List.cons_append, List.cons.injEq] at remains
        rw [grown, List.flatten_append, List.flatten_cons, ← remains.1, List.length_append, List.length_append,
          front, size_front, size_jump] at between
        omega
    · have shorter := congrArg (fun chunks : List (List α) => chunks.flatten.length) shrunk
      simp only [List.flatten_append, List.length_append, front, size_front] at shorter
      omega

/-- The first chunk that ends above the limit ends less than a chunk above it. -/
theorem exists_end_above {size : Nat} {chunks : List (List α)} (short : ∀ chunk ∈ chunks, chunk.length ≤ size)
    (above : limit < chunks.flatten.length) :
    ∃ first rest, chunks = first ++ rest ∧ limit < first.flatten.length ∧ first.flatten.length ≤ limit + size := by
  induction chunks generalizing limit with
  | nil => exact absurd above (Nat.not_lt_zero limit)
  | cons chunk rest ih =>
    have here := short chunk List.mem_cons_self
    by_cases now : limit < chunk.length
    · refine ⟨[chunk], rest, rfl, ?_, ?_⟩
      · rw [List.flatten_singleton]
        exact now
      · rw [List.flatten_singleton]
        omega
    · rw [List.flatten_cons, List.length_append] at above
      obtain ⟨first, later, split, longer, within⟩ :=
        ih (fun other member => short other (List.mem_cons_of_mem _ member))
          (show limit - chunk.length < rest.flatten.length by omega)
      refine ⟨chunk :: first, later, congrArg (List.cons chunk) split, ?_, ?_⟩
      · rw [List.flatten_cons, List.length_append]
        omega
      · rw [List.flatten_cons, List.length_append]
        omega

theorem endsBetween_of_late {size : Nat} {chunks : List (List α)} (within : length ≤ stream.length)
    (late : limit + size < length) (cut : Cut size stream chunks) : EndsBetween limit length chunks := by
  have total : limit < chunks.flatten.length := by
    rw [cut.whole]
    omega
  obtain ⟨first, rest, split, above, bound⟩ := exists_end_above (fun chunk member => (cut.chunk chunk member).2) total
  exact ⟨first, rest, split, above, by omega⟩

/-- Reading does not depend on the cut exactly when the parser decides on the error that the check
gives, early enough for the check, or so late that every cut runs into it. -/
theorem read_same_iff (decides : DecidesAt parse stream length result) {size : Nat} (room : 0 < size)
    (given : 0 < length) :
    (∀ first second, Cut size stream first → Cut size stream second →
        readChunks parse limit tooLong ended [] first = readChunks parse limit tooLong ended [] second) ↔
      result = tooLong ∨ length ≤ limit + 1 ∨ limit + size < length := by
  have early : ∀ chunks, Cut size stream chunks → ¬ EndsBetween limit length chunks →
      readChunks parse limit tooLong ended [] chunks = result := by
    intro chunks cut apart
    have sooner : ([] : List α).length < length := given
    apply readChunks_decided decides cut.whole sooner
    intro first rest split long
    by_contra between
    exact apart ⟨first, rest, split, long, not_le.mp between⟩
  have late : ∀ chunks, Cut size stream chunks → EndsBetween limit length chunks →
      readChunks parse limit tooLong ended [] chunks = tooLong := by
    intro chunks cut ⟨first, rest, split, above, below⟩
    exact readChunks_tooLong decides cut.whole split (Nat.zero_le _) above below
  constructor
  · intro same
    by_contra differs
    rw [not_or, not_or, not_le, not_lt] at differs
    have long : ∃ chunks, Cut size stream chunks ∧ readChunks parse limit tooLong ended [] chunks = tooLong :=
      exists_tooLong decides room differs.2.1
    have decided : ∃ chunks, Cut size stream chunks ∧ readChunks parse limit tooLong ended [] chunks = result :=
      exists_decided decides (by omega) differs.2.2
    obtain ⟨first, firstCut, first_long⟩ := long
    obtain ⟨second, secondCut, second_decided⟩ := decided
    have equal := same first second firstCut secondCut
    rw [first_long, second_decided] at equal
    exact differs.1 equal.symm
  · intro insensitive
    -- every cut comes to the same one of the two results
    have settled : ∃ common, ∀ chunks, Cut size stream chunks →
        readChunks parse limit tooLong ended [] chunks = common := by
      rcases insensitive with same | soon | never
      · refine ⟨tooLong, ?_⟩
        intro chunks cut
        by_cases between : EndsBetween limit length chunks
        · exact late chunks cut between
        · rw [early chunks cut between, same]
      · refine ⟨result, ?_⟩
        intro chunks cut
        apply early chunks cut
        intro ⟨first, rest, split, above, below⟩
        omega
      · exact ⟨tooLong, fun chunks cut => late chunks cut (endsBetween_of_late decides.within never cut)⟩
    obtain ⟨common, all⟩ := settled
    intro first second firstCut secondCut
    rw [all first firstCut, all second secondCut]

end Decided

end TelemetryFabric.Library
