import TelemetryFabric.Library.Chunks
import TelemetryFabric.Library.Numerals
import TelemetryFabric.Library.Utf8
import TelemetryFabric.Processors.Chain

/-!
How the OTLP/HTTP receiver reads a request. The bytes of a connection arrive in reads of at most
8192 bytes; the buffer is parsed again after each of them, and compared with the largest body.
-/

namespace TelemetryFabric.Agent
open Library Processors

def maxOtlpHttpBodyBytes : Nat := 16 * 1024 * 1024

def readSize : Nat := 8192

structure OtlpHttpRequest where
  method : String
  path : String
  contentType : Option String
  body : Bytes
  deriving DecidableEq

/-! ### Text -/

/-- `str::lines`: what ends a line is a line feed, with a carriage return before it or not. -/
def linesFrom : List Char → List Char → List (List Char)
  | [], line => if line = [] then [] else [line]
  | c :: rest, line =>
      if c = '\n' then (if line.getLast? = some '\r' then line.dropLast else line) :: linesFrom rest []
      else linesFrom rest (line ++ [c])

def lines (text : List Char) : List (List Char) := linesFrom text []

/-- `str::parse::<usize>` behind the sign: a character that is not a digit is found before the digits
in front of it are too many. -/
def parseUsizeFrom : List Char → Nat → Except String Nat
  | [], value => .ok value
  | c :: rest, value =>
      if c.isDigit then
        let next := value * 10 + (c.toNat - 48)
        if next < 2 ^ 64 then parseUsizeFrom rest next
        else .error "number too large to fit in target type"
      else .error "invalid digit found in string"

def parseUsize : List Char → Except String Nat
  | [] => .error "cannot parse integer from empty string"
  | ['+'] => .error "invalid digit found in string"
  | '+' :: digits => parseUsizeFrom digits 0
  | digits => parseUsizeFrom digits 0

def parseHeaderValue (headers : List Char) (expectedName : String) : Option (List Char) :=
  (lines headers).findSome? fun line =>
    match splitOnce ':' line with
    | some (name, value) =>
        if toAsciiLowercase (String.ofList name) = toAsciiLowercase expectedName then some (trim value) else none
    | none => none

def parseContentLength (headers : List Char) : Except String Nat :=
  match parseHeaderValue headers "content-length" with
  | some value => parseUsize value
  | none => .error "missing Content-Length"

/-! ### Requests -/

def terminator : Bytes := [13, 10, 13, 10]

/-- The position of the first empty line. -/
def findHeaderEnd : Bytes → Option Nat
  | [] => none
  | byte :: rest =>
      if (byte :: rest).take 4 = terminator then some 0 else (findHeaderEnd rest).map (· + 1)

def bodyTooLarge : String := "OTLP/HTTP request exceeds maximum body size"

structure RequestHead where
  method : String
  path : String
  contentLength : Nat
  contentType : Option String

/-- What `parse_buffered_http_request` makes of the bytes before the empty line. -/
def parseHead (headers : List Char) : Except String RequestHead :=
  match lines headers with
  | [] => .error "missing HTTP request line"
  | requestLine :: _ =>
      match splitWhitespace requestLine with
      | [] => .error "missing HTTP method"
      | [_] => .error "missing HTTP request path"
      | method :: path :: _ =>
          match parseContentLength headers with
          | .error message => .error message
          | .ok contentLength =>
              if maxOtlpHttpBodyBytes < contentLength then .error bodyTooLarge
              else .ok ⟨String.ofList method, String.ofList path, contentLength,
                (parseHeaderValue headers "content-type").map String.ofList⟩

def parseBufferedHttpRequest (buffer : Bytes) : Except String (Option OtlpHttpRequest) :=
  match findHeaderEnd buffer with
  | none => .ok none
  | some headerEnd =>
      match parseHead (fromUtf8Lossy (buffer.take headerEnd)).toList with
      | .error message => .error message
      | .ok head =>
          let bodyStart := headerEnd + 4
          let bodyEnd := bodyStart + head.contentLength
          if buffer.length < bodyEnd then .ok none
          else .ok (some ⟨head.method, head.path, head.contentType, (buffer.take bodyEnd).drop bodyStart⟩)

/-- The outcome of a parse, none for a buffer that is not a whole request yet. -/
def parseOutcome (buffer : Bytes) : Option (Except String OtlpHttpRequest) :=
  match parseBufferedHttpRequest buffer with
  | .error message => some (.error message)
  | .ok (some request) => some (.ok request)
  | .ok none => none

/-- `read_otlp_http_request`, for the bytes each read returns until one returns none. -/
def readOtlpHttpRequest (reads : List Bytes) : Except String OtlpHttpRequest :=
  readChunks parseOutcome maxOtlpHttpBodyBytes (.error bodyTooLarge)
    (.error "OTLP/HTTP request ended before full body") [] reads

/-! ### When the parser decides -/

section Parsing

variable {stream : Bytes}

/-- The first empty line of a stream is that of each beginning that reaches behind it. -/
theorem findHeaderEnd_take (stream : Bytes) (n : Nat) :
    findHeaderEnd (stream.take n) = (findHeaderEnd stream).filter fun headerEnd => headerEnd + 4 ≤ n := by
  induction stream generalizing n with
  | nil => rw [List.take_nil]; rfl
  | cons byte rest ih =>
    cases n with
    | zero =>
      rw [List.take_zero, Option.filter_eq_none_iff.mpr]
      · rfl
      · intro headerEnd _ reaches
        rw [decide_eq_true_iff] at reaches
        omega
    | succ n =>
      have window : ((byte :: rest).take (n + 1)).take 4 = ((byte :: rest).take 4).take (n + 1) := by
        rw [List.take_take, List.take_take, Nat.min_comm]
      rw [List.take_succ_cons] at window ⊢
      simp only [findHeaderEnd, window]
      by_cases here : (byte :: rest).take 4 = terminator
      · by_cases reaches : 4 ≤ n + 1
        · rw [here, if_pos rfl, List.take_of_length_le reaches, if_pos rfl, Option.filter_some,
            if_pos (decide_eq_true (show 0 + 4 ≤ n + 1 by omega))]
        · have short : ¬ terminator.take (n + 1) = terminator := by
            intro same
            have size := congrArg List.length same
            rw [List.length_take, show terminator.length = 4 from rfl] at size
            omega
          rw [here, if_neg short, if_pos rfl, ih, Option.filter_some, if_neg (by simpa using reaches)]
          rw [Option.filter_eq_none_iff.mpr]
          · rfl
          · intro headerEnd _ further
            rw [decide_eq_true_iff] at further
            omega
      · have differs : ¬ ((byte :: rest).take 4).take (n + 1) = terminator := by
          intro same
          have size := congrArg List.length same
          rw [List.length_take, List.length_take, show terminator.length = 4 from rfl] at size
          rw [List.take_of_length_le (by rw [List.length_take]; omega)] at same
          exact here same
        rw [if_neg here, if_neg differs, ih]
        cases findHeaderEnd rest with
        | none => rfl
        | some headerEnd =>
          simp only [Option.map_some, Option.filter_some, decide_eq_true_eq]
          by_cases reaches : headerEnd + 4 ≤ n
          · rw [if_pos reaches, if_pos (by omega)]
            rfl
          · rw [if_neg reaches, if_neg (by omega)]
            rfl

/-- Behind the empty line the header block of a beginning is that of the stream. -/
theorem parseOutcome_take {headerEnd n : Nat} (found : findHeaderEnd stream = some headerEnd)
    (reaches : headerEnd + 4 ≤ n) :
    parseOutcome (stream.take n) = match parseHead (fromUtf8Lossy (stream.take headerEnd)).toList with
      | .error message => some (.error message)
      | .ok head =>
          if min n stream.length < headerEnd + 4 + head.contentLength then none
          else some (.ok ⟨head.method, head.path, head.contentType,
            ((stream.take n).take (headerEnd + 4 + head.contentLength)).drop (headerEnd + 4)⟩) := by
  have inside : findHeaderEnd (stream.take n) = some headerEnd := by
    rw [findHeaderEnd_take, found, Option.filter_some, if_pos (decide_eq_true reaches)]
  have block : (stream.take n).take headerEnd = stream.take headerEnd := by
    rw [List.take_take, Nat.min_eq_left (by omega)]
  simp only [parseOutcome, parseBufferedHttpRequest, inside, block, List.length_take]
  cases parseHead (fromUtf8Lossy (stream.take headerEnd)).toList with
  | error message => rfl
  | ok head =>
    by_cases short : min n stream.length < headerEnd + 4 + head.contentLength
    · simp only [if_pos short]
    · simp only [if_neg short]

theorem parseOutcome_before {n : Nat} (early : ∀ headerEnd, findHeaderEnd stream = some headerEnd → n < headerEnd + 4) :
    parseOutcome (stream.take n) = none := by
  have absent : findHeaderEnd (stream.take n) = none := by
    rw [findHeaderEnd_take, Option.filter_eq_none_iff]
    intro headerEnd found reaches
    have before := early headerEnd found
    rw [decide_eq_true_iff] at reaches
    omega
  simp only [parseOutcome, parseBufferedHttpRequest, absent]

theorem findHeaderEnd_le {headerEnd : Nat} (found : findHeaderEnd stream = some headerEnd) :
    headerEnd + 4 ≤ stream.length := by
  by_contra beyond
  have cut := findHeaderEnd_take stream stream.length
  rw [List.take_length, found, Option.filter_some, if_neg (by simpa using beyond)] at cut
  cases cut

/-- A header block that is refused is refused as soon as it is there. -/
theorem decidesAt_error {headerEnd : Nat} (found : findHeaderEnd stream = some headerEnd) {message : String}
    (refused : parseHead (fromUtf8Lossy (stream.take headerEnd)).toList = .error message) :
    DecidesAt parseOutcome stream (headerEnd + 4) (.error message) where
  within := findHeaderEnd_le found
  before := by
    intro n early
    apply parseOutcome_before
    intro other same
    rw [found] at same
    exact Option.some.inj same ▸ early
  after := by
    intro n reaches
    rw [parseOutcome_take found reaches, refused]

/-- A request is decided when the last byte of its body is there. -/
theorem decidesAt_request {headerEnd : Nat} (found : findHeaderEnd stream = some headerEnd) {head : RequestHead}
    (read : parseHead (fromUtf8Lossy (stream.take headerEnd)).toList = .ok head)
    (whole : headerEnd + 4 + head.contentLength ≤ stream.length) :
    DecidesAt parseOutcome stream (headerEnd + 4 + head.contentLength)
      (.ok ⟨head.method, head.path, head.contentType,
        (stream.take (headerEnd + 4 + head.contentLength)).drop (headerEnd + 4)⟩) where
  within := whole
  before := by
    intro n early
    by_cases reaches : headerEnd + 4 ≤ n
    · rw [parseOutcome_take found reaches, read]
      exact if_pos (by omega)
    · apply parseOutcome_before
      intro other same
      rw [found] at same
      rw [← Option.some.inj same]
      omega
  after := by
    intro n reaches
    rw [parseOutcome_take found (by omega), read]
    have enough : ¬ min n stream.length < headerEnd + 4 + head.contentLength := by omega
    simp only [if_neg enough]
    rw [List.take_take, Nat.min_eq_left reaches]

/-- Without an empty line, or with less of a body than was announced, nothing is decided. -/
theorem parseOutcome_undecided
    (incomplete : ∀ headerEnd, findHeaderEnd stream = some headerEnd → ∃ head,
      parseHead (fromUtf8Lossy (stream.take headerEnd)).toList = .ok head ∧
        stream.length < headerEnd + 4 + head.contentLength) (n : Nat) :
    parseOutcome (stream.take n) = none := by
  cases found : findHeaderEnd stream with
  | none =>
    apply parseOutcome_before
    intro headerEnd same
    rw [found] at same
    cases same
  | some headerEnd =>
    obtain ⟨head, read, short⟩ := incomplete headerEnd found
    by_cases reaches : headerEnd + 4 ≤ n
    · rw [parseOutcome_take found reaches, read]
      exact if_pos (by omega)
    · apply parseOutcome_before
      intro other same
      rw [found] at same
      rw [← Option.some.inj same]
      omega

end Parsing

/-! ### Packet boundaries -/

/-- How the bytes of a stream may be read. -/
abbrev Reads (stream : Bytes) (reads : List Bytes) : Prop := Cut readSize stream reads

/-- The length of a buffer lies within the check, or so far above it that no read reaches there. -/
def ClearOfLimit (length : Nat) : Prop :=
  length ≤ maxOtlpHttpBodyBytes + 1 ∨ maxOtlpHttpBodyBytes + readSize < length

/-- A header block that is refused for another reason than the announced length, and a request that
is there with its whole body, end clear of the limit. -/
def EndsClear (stream : Bytes) : Prop :=
  ∀ headerEnd, findHeaderEnd stream = some headerEnd →
    match parseHead (fromUtf8Lossy (stream.take headerEnd)).toList with
    | .error message => message = bodyTooLarge ∨ ClearOfLimit (headerEnd + 4)
    | .ok head => headerEnd + 4 + head.contentLength ≤ stream.length →
        ClearOfLimit (headerEnd + 4 + head.contentLength)

/-- The result of a read does not depend on how the stream is cut into reads exactly when what the
parser decides ends clear of the limit. -/
theorem read_independent_iff (stream : Bytes) :
    (∀ first second, Reads stream first → Reads stream second →
        readOtlpHttpRequest first = readOtlpHttpRequest second) ↔ EndsClear stream := by
  have room : 0 < readSize := by decide
  unfold EndsClear
  cases found : findHeaderEnd stream with
  | none =>
    refine iff_of_true ?_ (fun headerEnd same => nomatch same)
    intro first second left right
    apply read_same_of_undecided (parseOutcome_undecided ?_) left right
    intro headerEnd same
    rw [found] at same
    cases same
  | some headerEnd =>
    have only : ∀ other, some headerEnd = some other → headerEnd = other := fun other => Option.some.inj
    cases read : parseHead (fromUtf8Lossy (stream.take headerEnd)).toList with
    | error message =>
      have decided := decidesAt_error found read
      refine (read_same_iff decided room (Nat.succ_pos _)).trans ?_
      constructor
      · intro apart other same
        rw [← only other same, read]
        exact apart.imp_left fun equal => Except.error.inj equal
      · intro apart
        have here := apart headerEnd rfl
        rw [read] at here
        exact here.imp_left (congrArg Except.error)
    | ok head =>
      by_cases whole : headerEnd + 4 + head.contentLength ≤ stream.length
      · refine (read_same_iff (decidesAt_request found read whole) room (by omega)).trans ?_
        constructor
        · intro apart other same
          rw [← only other same, read]
          exact fun _ => apart.resolve_left fun equal => nomatch equal
        · intro apart
          have here := apart headerEnd rfl
          rw [read] at here
          exact Or.inr (here whole)
      · refine iff_of_true ?_ ?_
        · intro first second left right
          apply read_same_of_undecided (parseOutcome_undecided ?_) left right
          intro other same
          rw [found] at same
          rw [← only other same]
          exact ⟨head, read, not_le.mp whole⟩
        · intro other same
          rw [← only other same, read]
          exact fun enough => absurd enough whole

/-- A header block that announces the largest body there may be. -/
def largestHeader : Bytes := utf8 "POST /v1/logs HTTP/1.1\r\nContent-Length: 16777216\r\n\r\n"

def largestRequest : Bytes := largestHeader ++ List.replicate maxOtlpHttpBodyBytes 0

theorem largestRequest_decides : ∃ request, request.body.length = maxOtlpHttpBodyBytes ∧
    DecidesAt parseOutcome largestRequest (52 + maxOtlpHttpBodyBytes) (.ok request) := by
  have size : largestHeader.length = 52 := by decide +kernel
  have block : largestRequest.take 52 = largestHeader := by
    rw [largestRequest, ← size, List.take_left]
  have found : findHeaderEnd largestRequest = some 48 := by
    have cut := findHeaderEnd_take largestRequest 52
    rw [block, show findHeaderEnd largestHeader = some 48 by decide +kernel] at cut
    exact (Option.filter_eq_some_iff.mp cut.symm).1
  have header : largestRequest.take 48 = largestHeader.take 48 := by
    rw [← block, List.take_take]
    rfl
  have read : ∃ head, parseHead (fromUtf8Lossy (largestRequest.take 48)).toList = .ok head ∧
      head.contentLength = maxOtlpHttpBodyBytes := by
    have parsed : (match parseHead (fromUtf8Lossy (largestHeader.take 48)).toList with
        | .ok head => decide (head.contentLength = maxOtlpHttpBodyBytes)
        | .error _ => false) = true := by decide +kernel
    rw [header]
    cases outcome : parseHead (fromUtf8Lossy (largestHeader.take 48)).toList with
    | error message =>
      rw [outcome] at parsed
      cases parsed
    | ok head =>
      rw [outcome] at parsed
      exact ⟨head, rfl, of_decide_eq_true parsed⟩
  obtain ⟨head, parsed, length⟩ := read
  have total : largestRequest.length = 52 + maxOtlpHttpBodyBytes := by
    rw [largestRequest, List.length_append, size, List.length_replicate]
  have whole : 48 + 4 + head.contentLength ≤ largestRequest.length := by
    rw [total, length]
  have decides := decidesAt_request found parsed whole
  rw [length] at decides
  refine ⟨_, ?_, decides⟩
  rw [List.length_drop, List.length_take, total]
  omega

/-- It is refused where a read ends between the limit and its last byte, and accepted where none
does. -/
theorem largest_request_depends : ∃ first second request,
    Reads largestRequest first ∧ Reads largestRequest second ∧ request.body.length = maxOtlpHttpBodyBytes ∧
      readOtlpHttpRequest first = .error bodyTooLarge ∧ readOtlpHttpRequest second = .ok request := by
  obtain ⟨request, length, decides⟩ := largestRequest_decides
  have between : ∃ reads, Reads largestRequest reads ∧ readOtlpHttpRequest reads = .error bodyTooLarge := by
    unfold readOtlpHttpRequest
    exact exists_tooLong decides (by decide) (by omega)
  have across : ∃ reads, Reads largestRequest reads ∧ readOtlpHttpRequest reads = .ok request := by
    unfold readOtlpHttpRequest
    exact exists_decided decides (by omega) (by unfold readSize; omega)
  obtain ⟨first, firstCut, refused⟩ := between
  obtain ⟨second, secondCut, accepted⟩ := across
  exact ⟨first, second, request, firstCut, secondCut, length, refused, accepted⟩

end TelemetryFabric.Agent
