import TelemetryFabric.ControlPlane.HttpConnection

/-!
What is read of a connection is a matter of the bytes alone, whatever the packets they come in, other
than where the head of the request ends within three bytes of its limit: there a packet that ends
inside of the empty line makes it too long.
-/

namespace TelemetryFabric.ControlPlane
open Library

namespace JsonRequest

/-- How the bytes of a connection may come. -/
structure Packets (stream : Binary) (reads : List Binary) : Prop where
  whole : reads.flatten = stream
  chunk : ∀ chunk ∈ reads, chunk ≠ []

/-- A head that is decided on, of the bytes read so far. -/
def headOutcome (acc : Binary) : Option (Except RequestFault Binary) :=
  (splitHead 13 10 acc).map fun parts =>
    if maxHeaderBytes < parts.1.length then .error .headersTooLong else .ok parts.1

def readHead (reads : List Binary) : Except RequestFault Binary :=
  readChunks headOutcome maxHeaderBytes (.error .headersTooLong) (.error .headNotRead) [] reads

/-- What a head and the bytes behind it come to. -/
def finishRequest (text : TextFunctions) (maxBodyBytes unique : Nat) (stream : Binary) :
    Except RequestFault Binary → Except RequestFault ServedRequest
  | .error fault => .error fault
  | .ok head =>
      match parseHead text maxBodyBytes unique head with
      | .error fault => .error fault
      | .ok parsed => (readBody (stream.drop (head.length + 4)) [] parsed.contentLength).map fun body =>
          ⟨parsed.toHttpRequest, body, parsed.requestId⟩

/-! ### One packet after another -/

theorem readUntilHeaders_decided {acc : Binary} {result : Except RequestFault (Binary × Binary)}
    (decided : headStep acc = some result) (reads : List Binary) :
    readUntilHeaders acc reads = result.map fun parts => (parts, reads) := by
  cases reads with
  | nil => simp only [readUntilHeaders, decided]
  | cons chunk rest => simp only [readUntilHeaders, decided]

/-- The head is read as in one piece, and what has come behind it is kept. -/
theorem readUntilHeaders_spec {stream acc : Binary} {reads : List Binary} (undecided : headStep acc = none)
    (whole : acc ++ reads.flatten = stream) :
    match readChunks headOutcome maxHeaderBytes (.error .headersTooLong) (.error .headNotRead) acc reads with
    | .error fault => readUntilHeaders acc reads = .error fault
    | .ok head => ∃ body rest, readUntilHeaders acc reads = .ok ((head, body), rest) ∧
        body ++ rest.flatten = stream.drop (head.length + 4) := by
  induction reads generalizing acc with
  | nil => simp only [readChunks, readUntilHeaders, undecided]
  | cons chunk rest ih =>
    rw [List.flatten_cons, ← List.append_assoc] at whole
    rw [readUntilHeaders, undecided]
    simp only [readChunks]
    cases split : splitHead 13 10 (acc ++ chunk) with
    | some parts =>
      obtain ⟨head, body⟩ := parts
      have outcome : headOutcome (acc ++ chunk) =
          some (if maxHeaderBytes < head.length then .error .headersTooLong else .ok head) := by
        simp only [headOutcome, split, Option.map_some]
      have step : headStep (acc ++ chunk) =
          some (if maxHeaderBytes < head.length then .error .headersTooLong else .ok (head, body)) := by
        simp only [headStep, split]
      rw [outcome, readUntilHeaders_decided step]
      by_cases long : maxHeaderBytes < head.length
      · simp only [if_pos long]
        rfl
      · simp only [if_neg long]
        refine ⟨body, rest, rfl, ?_⟩
        have parts := eq_of_splitHead split
        rw [← whole, parts]
        have size : head.length + 4 = (head ++ [13, 10, 13, 10]).length := by rw [List.length_append]; rfl
        rw [size, List.append_assoc (head ++ [13, 10, 13, 10]), List.drop_left]
    | none =>
      have outcome : headOutcome (acc ++ chunk) = none := by simp only [headOutcome, split, Option.map_none]
      rw [outcome]
      by_cases long : maxHeaderBytes < (acc ++ chunk).length
      · have step : headStep (acc ++ chunk) = some (.error .headersTooLong) := by
          simp only [headStep, split, if_pos long]
        rw [readUntilHeaders_decided step]
        simp only [if_pos long]
        rfl
      · have step : headStep (acc ++ chunk) = none := by simp only [headStep, split, if_neg long]
        simp only [if_neg long]
        exact ih step whole

/-- A body is taken from what has come and what comes alike. -/
theorem readBody_flatten (body : Binary) (reads : List Binary) (contentLength : Int) :
    readBody body reads contentLength = readBody (body ++ reads.flatten) [] contentLength := by
  unfold readBody
  rw [List.length_append, List.flatten_nil, List.length_nil]
  by_cases here : contentLength ≤ body.length
  · have more : contentLength ≤ ((body.length + reads.flatten.length : Nat) : Int) := by omega
    rw [if_pos here, if_pos more]
    by_cases negative : contentLength < 0
    · rw [if_pos negative, if_pos negative]
    · rw [if_neg negative, if_neg negative, List.take_append_of_le_length (by omega)]
  · rw [if_neg here]
    by_cases enough : contentLength.toNat - body.length ≤ reads.flatten.length
    · rw [if_pos enough, if_pos (by omega), if_neg (by omega), List.take_append,
        List.take_of_length_le (show body.length ≤ contentLength.toNat by omega)]
    · rw [if_neg enough, if_neg (by omega), if_neg (by omega)]

theorem readRequest_eq (text : TextFunctions) (maxBodyBytes unique : Nat) {stream : Binary} {reads : List Binary}
    (whole : reads.flatten = stream) :
    readRequest text maxBodyBytes unique reads = finishRequest text maxBodyBytes unique stream (readHead reads) := by
  have undecided : headStep [] = none := rfl
  have spec := readUntilHeaders_spec undecided ((List.nil_append _).trans whole)
  unfold readRequest
  unfold readHead
  cases result : readChunks headOutcome maxHeaderBytes (.error .headersTooLong) (.error .headNotRead) [] reads with
  | error fault =>
    rw [result] at spec
    have read : readUntilHeaders [] reads = .error fault := spec
    rw [read]
    rfl
  | ok head =>
    rw [result] at spec
    obtain ⟨body, rest, read, behind⟩ := spec
    rw [read]
    simp only [finishRequest]
    cases parseHead text maxBodyBytes unique head with
    | error fault => rfl
    | ok parsed =>
      simp only []
      rw [readBody_flatten, behind]

/-! ### Packets -/

theorem headOutcome_take {stream head body : Binary} (split : splitHead 13 10 stream = some (head, body)) (n : Nat) :
    headOutcome (stream.take n) = if head.length + 4 ≤ n then
      some (if maxHeaderBytes < head.length then .error .headersTooLong else .ok head) else none := by
  unfold headOutcome
  rw [splitHead_take, split, Option.bind_some]
  by_cases reaches : head.length + 4 ≤ n
  · rw [if_pos reaches, if_pos reaches, Option.map_some]
  · rw [if_neg reaches, if_neg reaches, Option.map_none]

theorem headOutcome_undecided {stream : Binary} (split : splitHead 13 10 stream = none) (n : Nat) :
    headOutcome (stream.take n) = none := by
  unfold headOutcome
  rw [splitHead_take, split]
  rfl

theorem decidesAt_head {stream head body : Binary} (split : splitHead 13 10 stream = some (head, body)) :
    DecidesAt headOutcome stream (head.length + 4)
      (if maxHeaderBytes < head.length then .error .headersTooLong else .ok head) := by
  refine ⟨?_, ?_, ?_⟩
  · have parts := congrArg List.length (eq_of_splitHead split)
    simp only [List.length_append, List.length_cons, List.length_nil] at parts
    omega
  · intro n before
    rw [headOutcome_take split, if_neg (by omega)]
  · intro n reaches
    rw [headOutcome_take split, if_pos reaches]

theorem Packets.cut {stream : Binary} {reads : List Binary} (packets : Packets stream reads) :
    Cut (stream.length + 4) stream reads := by
  refine ⟨packets.whole, ?_⟩
  intro chunk member
  refine ⟨packets.chunk chunk member, ?_⟩
  have length := List.Sublist.length_le (List.sublist_flatten_of_mem member)
  rw [packets.whole] at length
  omega

theorem Packets.of_cut {size : Nat} {stream : Binary} {reads : List Binary} (cut : Cut size stream reads) :
    Packets stream reads :=
  ⟨cut.whole, fun chunk member => (cut.chunk chunk member).1⟩

/-- The head is not cut off by the limit, however it comes, or always is. -/
def HeadClearOfLimit (stream : Binary) : Prop :=
  ∀ head body, splitHead 13 10 stream = some (head, body) →
    head.length + 3 ≤ maxHeaderBytes ∨ maxHeaderBytes < head.length

theorem parseHead_ne {text : TextFunctions} {maxBodyBytes unique : Nat} {head : Binary} :
    parseHead text maxBodyBytes unique head ≠ .error .headersTooLong := by
  unfold parseHead
  split
  next => exact fun same => nomatch same
  next requestLine headerLines _ =>
    split
    next => exact fun same => nomatch same
    next method path version _ =>
      simp only []
      split
      next => exact fun same => nomatch same
      next =>
        split_ifs
        · exact fun same => nomatch same
        · exact fun same => nomatch same

theorem readBody_ne {body : Binary} {reads : List Binary} {contentLength : Int} :
    readBody body reads contentLength ≠ .error .headersTooLong := by
  unfold readBody
  split_ifs
  · exact fun same => nomatch same
  · exact fun same => nomatch same
  · simp only []
    split_ifs
    · exact fun same => nomatch same
    · exact fun same => nomatch same

/-- A head that was read is not too long. -/
theorem finishRequest_ne {text : TextFunctions} {maxBodyBytes unique : Nat} {stream head : Binary} :
    finishRequest text maxBodyBytes unique stream (.ok head) ≠ .error .headersTooLong := by
  intro same
  simp only [finishRequest] at same
  cases parsed : parseHead text maxBodyBytes unique head with
  | error fault =>
    rw [parsed] at same
    cases same
    exact parseHead_ne parsed
  | ok result =>
    rw [parsed] at same
    simp only [] at same
    cases body : readBody (stream.drop (head.length + 4)) [] result.contentLength with
    | error fault =>
      rw [body] at same
      cases same
      exact readBody_ne body
    | ok body' =>
      rw [body] at same
      cases same

/-- The request that is read does not depend on the packets exactly when its head is clear of its
limit. -/
theorem read_request_independent_iff (text : TextFunctions) (maxBodyBytes unique : Nat) (stream : Binary) :
    (∀ first second, Packets stream first → Packets stream second →
        readRequest text maxBodyBytes unique first = readRequest text maxBodyBytes unique second) ↔
      HeadClearOfLimit stream := by
  have room : 0 < stream.length + 4 := by omega
  unfold HeadClearOfLimit
  cases split : splitHead 13 10 stream with
  | none =>
    refine iff_of_true ?_ (fun head body same => nomatch same)
    intro first second left right
    rw [readRequest_eq text maxBodyBytes unique left.whole, readRequest_eq text maxBodyBytes unique right.whole]
    congr 1
    exact read_same_of_undecided (headOutcome_undecided split) left.cut right.cut
  | some parts =>
    obtain ⟨head, body⟩ := parts
    have decides := decidesAt_head split
    have within := decides.within
    constructor
    · intro same _ _ found
      cases found
      by_contra between
      rw [not_or, not_le, not_lt] at between
      obtain ⟨above, fits⟩ := between
      rw [if_neg (not_lt.mpr fits)] at decides
      have refused : ∃ reads, Cut (stream.length + 4) stream reads ∧ readHead reads = .error .headersTooLong :=
        exists_tooLong decides room (by omega)
      have accepted : ∃ reads, Cut (stream.length + 4) stream reads ∧ readHead reads = .ok head :=
        exists_decided decides (by omega) (by omega)
      obtain ⟨long, longCut, tooLong⟩ := refused
      obtain ⟨short, shortCut, decided⟩ := accepted
      have equal := same short long (.of_cut shortCut) (.of_cut longCut)
      rw [readRequest_eq text maxBodyBytes unique shortCut.whole, readRequest_eq text maxBodyBytes unique longCut.whole]
        at equal
      rw [decided, tooLong] at equal
      exact finishRequest_ne equal
    · intro clear first second left right
      have apart := clear head body rfl
      rw [readRequest_eq text maxBodyBytes unique left.whole, readRequest_eq text maxBodyBytes unique right.whole]
      congr 1
      apply (read_same_iff decides room (Nat.succ_pos _)).mpr _ first second left.cut right.cut
      rcases apart with short | long
      · exact Or.inr (Or.inl (by omega))
      · exact Or.inl (if_pos long)

end JsonRequest

end TelemetryFabric.ControlPlane
