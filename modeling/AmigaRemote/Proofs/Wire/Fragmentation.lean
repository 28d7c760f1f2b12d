import AmigaRemote.Proofs.Wire.Framing
import AmigaRemote.Proofs.Wire.Reliability

/-! Two sources that bring the same bytes in different pieces are read alike: every reading gives
the same result on both, failures included, and leaves the same bytes unread. -/

namespace AmigaRemote

/-- Two readers that have the same bytes unread, of which different ones may have arrived. -/
structure Reader.Alike (left right : Reader) : Prop where
  leftReliable : left.source.Reliable
  rightReliable : right.source.Reliable
  encoding : left.encoding = right.encoding
  unread : left.unread = right.unread

/-- Two outcomes that are the same as far as bytes are concerned, if no line was given up for having
been too long when the limit was looked at. -/
def Agree {α : Type} (left right : Except WireError α × Reader) : Prop :=
  tooLong left.1 = true ∨ tooLong right.1 = true ∨ left.1 = right.1 ∧ Reader.Alike left.2 right.2

/-- A reading that does not depend on the pieces in which bytes come. -/
def Indifferent {α : Type} (reading : Reading α) : Prop :=
  ∀ ⦃left right : Reader⦄, left.Alike right → Agree (reading left) (reading right)

/-- A sequence that begins with a line given up gives it up. -/
theorem tooLong_bind {α β : Type} {x : Reading α} {next : α → Reading β} {r : Reader}
    (long : tooLong (x r).1 = true) : tooLong ((x >>= next) r).1 = true := by
  rw [Step.bind_apply]
  -- What follows a failure is the failure.
  rcases found : x r with ⟨e | a, after⟩
  · rw [found] at long
    cases e <;> first | rfl | cases long
  · rw [found] at long
    cases long

/-- Sequences agree if their first parts do, and what follows agrees after each result that both
have. -/
theorem Agree.bind {α β : Type} {x : Reading α} {next : α → Reading β} {left right : Reader}
    (first : Agree (x left) (x right))
    (second : ∀ a left' right', x left = (.ok a, left') → left'.Alike right' →
      Agree (next a left') (next a right')) :
    Agree ((x >>= next) left) ((x >>= next) right) := by
  rcases first with long | long | ⟨same, alike⟩
  · exact .inl (tooLong_bind long)
  · exact .inr (.inl (tooLong_bind long))
  · rw [Step.bind_apply, Step.bind_apply]
    rcases atLeft : x left with ⟨result, left'⟩
    rcases atRight : x right with ⟨result', right'⟩
    rw [atLeft, atRight] at same alike
    cases same
    -- Either both have failed alike, or both go on alike.
    cases result with
    | error e => exact .inr (.inr ⟨rfl, alike⟩)
    | ok a => exact second a left' right' atLeft alike

namespace Indifferent

variable {α β : Type}

/-- A sequence is indifferent if each of its parts is. -/
theorem bind {x : Reading α} {next : α → Reading β} (first : Indifferent x)
    (second : ∀ a, Indifferent (next a)) : Indifferent (x >>= next) :=
  -- The first part leaves alike readers, and on these the second part is indifferent.
  fun _ _ alike => (first alike).bind fun a _ _ _ alike' => second a alike'

/-- What reads nothing is indifferent to what could be read. -/
theorem pure (a : α) : Indifferent (Pure.pure a : Reading α) :=
  -- Nothing is read, so that alike readers stay alike.
  fun _ _ alike => .inr (.inr ⟨rfl, alike⟩)

/-- To give up is indifferent. -/
theorem throw (e : WireError) : Indifferent (MonadExcept.throw e : Reading α) :=
  -- Neither is anything read where an error is given at once.
  fun _ _ alike => .inr (.inr ⟨rfl, alike⟩)

/-- A result known beforehand is indifferent. -/
theorem ofExcept (result : Except WireError α) :
    Indifferent (Step.ofExcept result : Reading α) :=
  -- Nor where the result is there already.
  fun _ _ alike => .inr (.inr ⟨rfl, alike⟩)

end Indifferent

namespace Reader

/-- The bytes of a line do not depend on the pieces in which they come. -/
theorem readLineBytes_indifferent : Indifferent readLineBytes := by
  intro left right alike
  obtain ⟨leftReliable, atLeft⟩ := readLineBytes_reliable alike.leftReliable
  obtain ⟨rightReliable, atRight⟩ := readLineBytes_reliable alike.rightReliable
  rcases atLeft with long | atLeft
  · exact .inl long
  · rcases atRight with long | atRight
    · exact .inr (.inl long)
    · -- Both are the line that the same unread bytes begin with.
      rw [← alike.encoding, ← alike.unread, ← atLeft, Prod.mk.injEq] at atRight
      obtain ⟨same, rest⟩ := atRight
      refine .inr (.inr ⟨same.symm, leftReliable, rightReliable, ?_, rest.symm⟩)
      rw [readLineBytes_encoding, readLineBytes_encoding, alike.encoding]

/-- A line is its bytes, decoded. -/
theorem readLine_eq : readLine = do
    let line ← readLineBytes
    let r ← get
    return r.encoding.decode line := by
  -- Both are the same function of the reader.
  funext r
  rw [Step.bind_apply, readLine]
  rcases readLineBytes r with ⟨_ | _, _⟩ <;> rfl

/-- A line does not depend on the pieces in which it comes. -/
theorem readLine_indifferent : Indifferent readLine := by
  rw [readLine_eq]
  refine readLineBytes_indifferent.bind fun line => ?_
  -- Both readers have the same encoding.
  intro left right alike
  refine .inr (.inr ⟨?_, alike⟩)
  exact congrArg (fun encoding => Except.ok (Encoding.decode encoding line)) alike.encoding

/-- Bytes do not depend on the pieces in which they come. -/
theorem readExact_indifferent (length : Nat) : Indifferent (readExact length) := by
  intro left right alike
  -- From a reliable source the outcome is told by the content alone, which the two have in common.
  obtain ⟨leftReliable, atLeft⟩ := readExact_reliable alike.leftReliable length
  obtain ⟨rightReliable, atRight⟩ := readExact_reliable alike.rightReliable length
  rw [← alike.unread, ← atLeft, Prod.mk.injEq] at atRight
  obtain ⟨same, rest⟩ := atRight
  refine .inr (.inr ⟨same.symm, leftReliable, rightReliable, ?_, rest.symm⟩)
  rw [readExact_encoding, readExact_encoding, alike.encoding]

/-- A status line does not depend on the pieces in which it comes. -/
theorem readStatus_indifferent : Indifferent readStatus :=
  -- The line is indifferent, and understanding it reads nothing.
  readLine_indifferent.bind fun _ => .ofExcept _

/-- The sentinel does not depend on the pieces in which it comes. -/
theorem expectSentinel_indifferent : Indifferent expectSentinel := by
  -- Behind the line it is compared, and nothing more is read.
  refine readLine_indifferent.bind fun line => ?_
  split
  · exact .throw _
  · exact .pure ()

/-- Payload lines do not depend on the pieces in which they come, whatever lines are at hand. -/
theorem readLinesAfter_indifferent (lines : List Text) : Indifferent (readLinesAfter lines) := by
  intro left right alike
  -- The induction is on the bytes that are unread, of which every line takes some.
  induction size : left.unread.length using Nat.strongRecOn generalizing lines left right with
  | _ n ih =>
    rw [readLinesAfter_eq]
    refine (readLine_indifferent alike).bind fun line left' right' read alike' => ?_
    have shorter := readLine_shortens read
    by_cases last : line = Line.sentinel
    · simp only [if_pos last]
      exact .inr (.inr ⟨rfl, alike'⟩)
    · simp only [if_neg last]
      exact ih _ (size ▸ shorter) _ alike' rfl

/-- Payload lines do not depend on the pieces in which they come. -/
theorem readLines_indifferent : Indifferent readLines :=
  -- They are the payload with no line gathered yet.
  readLinesAfter_indifferent []

/-- A step of a transfer does not depend on the pieces in which it comes. -/
theorem readChunk_indifferent : Indifferent readChunk := by
  refine readLine_indifferent.bind fun line => (Indifferent.ofExcept _).bind fun header => ?_
  -- The first line decides what is read after it.
  cases header with
  | some length => exact (readExact_indifferent length).bind fun _ => .pure _
  | none =>
    by_cases isEnd : line = Chunk.endLine
    · simp only [isEnd, if_true]
      exact expectSentinel_indifferent.bind fun _ => .pure _
    · simp only [isEnd, if_false]
      split
      · exact expectSentinel_indifferent.bind fun _ => .pure _
      · exact .throw _

/-- A response that carries lines does not depend on the pieces in which it comes. -/
theorem readResponse_indifferent : Indifferent readResponse :=
  -- Its two parts are indifferent.
  readStatus_indifferent.bind fun _ => readLines_indifferent.bind fun _ => .pure _

/-- A transfer does not depend on the pieces in which it comes. -/
theorem readTransferAfter_indifferent (info : Text) (chunks : List Bytes) :
    Indifferent (readTransferAfter info chunks) := by
  intro left right alike
  -- As with payload lines, every step takes some of the unread bytes.
  induction size : left.unread.length using Nat.strongRecOn generalizing chunks left right with
  | _ n ih =>
    rw [readTransferAfter_eq]
    refine (readChunk_indifferent alike).bind fun chunk left' right' read alike' => ?_
    have shorter := readChunk_shortens read
    cases chunk with
    | data bytes => exact ih _ (size ▸ shorter) _ alike' rfl
    | ended => exact .inr (.inr ⟨rfl, alike'⟩)
    | aborted e => exact .inr (.inr ⟨rfl, alike'⟩)

/-- A response that carries data does not depend on the pieces in which it comes. -/
theorem readChunkedResponse_indifferent : Indifferent readChunkedResponse := by
  -- In place of data lines are read, and both are indifferent.
  refine readStatus_indifferent.bind fun (status, info) => ?_
  cases status with
  | err => exact readLines_indifferent.bind fun _ => .pure _
  | ok => exact readTransferAfter_indifferent info []

end Reader

/-- What can be asked of a reader. -/
inductive ReadRequest where
  | line
  | lineBytes
  | exact (length : Nat)
  | status
  | lines
  | sentinel
  | chunk
  | response
  | chunkedResponse
  deriving DecidableEq

/-- What a reader gives. -/
inductive ReadAnswer where
  | text (line : Text)
  | bytes (bytes : Bytes)
  | status (verdict : Status) (info : Text)
  | lines (lines : List Text)
  | sentinel
  | chunk (chunk : Chunk)
  | response (response : Response)
  deriving DecidableEq

namespace ReadRequest

/-- Carries out a request. -/
def perform : ReadRequest → Reading ReadAnswer
  | line => return .text (← Reader.readLine)
  | lineBytes => return .bytes (← Reader.readLineBytes)
  | exact length => return .bytes (← Reader.readExact length)
  | status => do
    let (verdict, info) ← Reader.readStatus
    return .status verdict info
  | lines => return .lines (← Reader.readLines)
  | sentinel => do
    Reader.expectSentinel
    return .sentinel
  | chunk => return .chunk (← Reader.readChunk)
  | response => return .response (← Reader.readResponse)
  | chunkedResponse => return .response (← Reader.readChunkedResponse)

/-- No answer depends on the pieces in which bytes come. -/
theorem perform_indifferent (request : ReadRequest) : Indifferent request.perform := by
  -- Each request is one of the readings, with its result put into a common type.
  cases request with
  | line => exact Reader.readLine_indifferent.bind fun _ => .pure _
  | lineBytes => exact Reader.readLineBytes_indifferent.bind fun _ => .pure _
  | exact length => exact (Reader.readExact_indifferent length).bind fun _ => .pure _
  | status => exact Reader.readStatus_indifferent.bind fun _ => .pure _
  | lines => exact Reader.readLines_indifferent.bind fun _ => .pure _
  | sentinel => exact Reader.expectSentinel_indifferent.bind fun _ => .pure _
  | chunk => exact Reader.readChunk_indifferent.bind fun _ => .pure _
  | response => exact Reader.readResponse_indifferent.bind fun _ => .pure _
  | chunkedResponse => exact Reader.readChunkedResponse_indifferent.bind fun _ => .pure _

end ReadRequest

namespace Reader

/-- The answers to requests in order, each with the bytes that it leaves unread. A request is made
whatever became of those before it. -/
def answers : List ReadRequest → Reader → List (Except WireError ReadAnswer × Bytes)
  | [], _ => []
  | request :: later, r =>
    let (answer, after) := request.perform r
    (answer, after.unread) :: answers later after

/-- The first request is answered, and the later ones from what it leaves. -/
theorem answers_cons (request : ReadRequest) (later : List ReadRequest) (r : Reader) :
    r.answers (request :: later) =
      ((request.perform r).1, (request.perform r).2.unread)
        :: (request.perform r).2.answers later := rfl

/-- Readers that are alike give the same answers. -/
theorem Alike.answers_eq {left right : Reader} (alike : left.Alike right)
    {requests : List ReadRequest}
    (leftShort : ∀ answer ∈ left.answers requests, tooLong answer.1 = false)
    (rightShort : ∀ answer ∈ right.answers requests, tooLong answer.1 = false) :
    left.answers requests = right.answers requests := by
  induction requests generalizing left right with
  | nil => rfl
  | cons request later ih =>
    rw [answers_cons] at leftShort rightShort ⊢
    rw [List.forall_mem_cons] at leftShort rightShort
    rcases request.perform_indifferent alike with long | long | ⟨same, alike'⟩
    · rw [leftShort.1] at long
      cases long
    · rw [rightShort.1] at long
      cases long
    · -- The readers are alike again after the first request.
      rw [answers_cons, same, alike'.unread, ih alike' leftShort.2 rightShort.2]

/-- Two sources that bring the same bytes and then end give the same answers to all requests, and
leave the same bytes unread after each, whatever the pieces in which the bytes come and wherever a
read is interrupted. Only a line that was given up for its length could make a difference. -/
theorem answers_eq_of_content_eq {left right : Source} {encoding : Encoding}
    {requests : List ReadRequest} (leftReliable : left.Reliable) (rightReliable : right.Reliable)
    (same : left.content = right.content)
    (leftShort : ∀ answer ∈ (ofSource left encoding).answers requests, tooLong answer.1 = false)
    (rightShort : ∀ answer ∈ (ofSource right encoding).answers requests,
      tooLong answer.1 = false) :
    (ofSource left encoding).answers requests = (ofSource right encoding).answers requests := by
  -- Before the first request nothing has arrived on either side.
  have alike : (ofSource left encoding).Alike (ofSource right encoding) :=
    ⟨leftReliable, rightReliable, rfl, same⟩
  exact alike.answers_eq leftShort rightShort

/-- A status, a chunk with a line end in it, a wrong line, a line that is cut off, bytes that do not
come and the end of the stream are the same in one piece and in many. -/
theorem answers_eq_of_content_eq_interrupted :
    (ofSource ⟨[.bytes [79, 75, 10, 68, 65, 84, 65, 32, 51, 10, 97, 10, 98, 69, 78, 68, 13, 10, 120]
          (by decide)], .closed⟩ .utf8).answers
        [.status, .chunk, .sentinel, .exact 0, .lineBytes, .exact 2, .line]
      = (ofSource ⟨[.fault (.ofKind .interrupted), .bytes [79] (by decide),
            .bytes [75, 10, 68, 65, 84, 65] (by decide), .bytes [32, 51, 10, 97, 10] (by decide),
            .fault (.system .interrupted), .bytes [98, 69, 78, 68, 13] (by decide),
            .bytes [10, 120] (by decide), .bytes [] (by decide), .fault (.ofKind .interrupted)],
          .closed⟩ .utf8).answers
        [.status, .chunk, .sentinel, .exact 0, .lineBytes, .exact 2, .line] :=
  -- The two sources have the same content, so that the general theorem applies.
  answers_eq_of_content_eq ⟨by decide, rfl⟩ ⟨by decide, rfl⟩ rfl (by decide) (by decide)

end Reader
end AmigaRemote
